import JavaStubs.Host.Inputs

namespace JavaStubs.Host

open Work

/-- What comes behind the stops of a list. -/
inductive LaterStops where
  | none
  /-- All multiples of a number. -/
  | multiples (size : Nat)
  /-- Stops at a distance from the last one of the list. -/
  | distance (size : Nat)
  deriving DecidableEq, Repr

/-- The columns that tabs lead to. -/
structure TabStops where
  list : List Nat
  later : LaterStops
  deriving DecidableEq, Repr

namespace TabStops

def next? (stops : TabStops) (column : Nat) : Option Nat :=
  match stops.list.find? (column < ·), stops.later with
  | some stop, _ => some stop
  | none, .none => none
  | none, .multiples size => some (column + (size - column % size))
  | none, .distance size =>
    some (column + (size - (column - stops.list.getLast?.getD 0) % size))

/-! ## Reading -/

/-- What the words of lists of stops came to. -/
structure Words where
  stops : List Nat := []
  multiples : Option Nat := none
  distance : Option Nat := none

/-- A word of a list of stops: its mark, if it has one, and its number. -/
structure Word where
  mark : Option Char
  number : Nat

/-- Adds a word to those in front. -/
def Words.push (words : Words) (word : Word) : Except String Words :=
  match word.mark with
  | some '/' =>
    if words.multiples.any (· != 0) then
      .error "'/' specifier only allowed with the last value"
    else .ok { words with multiples := some word.number }
  | some _ =>
    if words.distance.any (· != 0) then
      .error "'+' specifier only allowed with the last value"
    else .ok { words with distance := some word.number }
  | none => .ok { words with stops := words.stops ++ [word.number] }

/-- The words of a list of stops, added to those in front; a mark holds for all words behind it, and
`number` is the one that is being read. -/
def Words.read (words : Words) (mark : Option Char) (number : Option Nat) :
    List Char → Except String Words
  | [] => (number.map fun n => words.push ⟨mark, n⟩).getD (.ok words)
  | c :: rest =>
    if c == ',' || c == ' ' || c == '\t' then do
      let words ← (number.map fun n => words.push ⟨mark, n⟩).getD (.ok words)
      words.read mark none rest
    else if c == '/' || c == '+' then
      if number.isSome then
        .error s!"'{c}' specifier not at start of number: {quotedName (String.ofList (c :: rest))}"
      else words.read (some c) none rest
    else if c.isDigit then
      words.read mark (some (10 * number.getD 0 + (c.toNat - '0'.toNat))) rest
    else
      .error s!"tab size contains invalid character(s): {quotedName (String.ofList (c :: rest))}"

/-- The stops that words come to. -/
def Words.toStops (words : Words) : Except String TabStops := do
  let greatest := Nat.pow 2 64
  let tooLarge := words.stops.find? (greatest ≤ ·)
  if let some n := tooLarge then
    throw s!"tab stop is too large {quotedName (toString n)}"
  if words.stops.contains 0 then throw "tab size cannot be 0"
  if !(words.stops.zip (words.stops.drop 1)).all fun (a, b) => a < b then
    throw "tab sizes must be ascending"
  let multiples := words.multiples.filter (· != 0)
  let distance := words.distance.filter (· != 0)
  if multiples.isSome && distance.isSome then
    throw "'/' specifier is mutually exclusive with '+'"
  return match words.stops, multiples, distance with
    | [], none, none => ⟨[], .multiples 8⟩
    | [], some n, _ => ⟨[], .multiples n⟩
    | [], none, some n => ⟨[], .multiples n⟩
    | [n], none, none => ⟨[], .multiples n⟩
    | stops, some n, _ => ⟨stops, .multiples n⟩
    | stops, none, some n => ⟨stops, .distance n⟩
    | stops, none, none => ⟨stops, .none⟩

/-- The stops of texts that list them. -/
def ofTexts (texts : List String) : Except String TabStops := do
  let words ← texts.foldlM (fun (words : Words) text => words.read none none text.toList) {}
  words.toStops

/-! ## Blanks for tabs -/

/-- Puts blanks in the place of tabs, from a column on; `isOpen` says that tabs of this line are still
replaced, and only those at the start of a line are if `onlyFirst` is set. -/
def expanded (stops : TabStops) (onlyFirst : Bool) : Bool → Nat → List Char → List Char
  | _, _, [] => []
  | _, _, '\n' :: rest => '\n' :: stops.expanded onlyFirst true 0 rest
  | false, column, c :: rest => c :: stops.expanded onlyFirst false column rest
  | true, column, c :: rest =>
    if c == '\t' then
      let next := (stops.next? column).getD (column + 1)
      List.replicate (next - column) ' ' ++ stops.expanded onlyFirst true next rest
    else
      let column := if c == '\x08' then column - 1 else column + 1
      c :: stops.expanded onlyFirst (!onlyFirst || c == ' ') column rest

/-! ## Tabs for blanks -/

/-- Where the replacement of blanks in a line stands. -/
structure Tabbing where
  isOpen : Bool := true
  column : Nat := 0
  /-- Whether a single blank was in front of a stop. -/
  isSingle : Bool := false
  isBehindBlank : Bool := true
  /-- The blanks that are not written yet, the last one first. -/
  waiting : List Char := []

/-- The blanks that waited, as they are written. -/
def Tabbing.written (line : Tabbing) : List Char :=
  let waiting := line.waiting.reverse
  if 1 < waiting.length && line.isSingle then '\t' :: waiting.drop 1 else waiting

/-- Takes a character of a line, and tells what is written. -/
def push (stops : TabStops) (onlyFirst : Bool) (line : Tabbing) (c : Char) : List Char × Tabbing :=
  if !line.isOpen then ([c], line)
  else if c == ' ' || c == '\t' then
    match stops.next? line.column with
    | none =>
      (line.written ++ [c],
        { line with isOpen := false, waiting := [], isSingle := false, isBehindBlank := true })
    | some next =>
      let isStop := line.column + 1 = next
      if c == ' ' && !(line.isBehindBlank && isStop) then
        ([], { line with
          column := line.column + 1, waiting := c :: line.waiting, isBehindBlank := true,
          isSingle := line.isSingle || isStop })
      else
        let column := if c == '\t' then next else line.column + 1
        let kept : List Char := if line.isSingle then ['\t'] else []
        (kept ++ ['\t'],
          { line with column := column, waiting := [], isSingle := false, isBehindBlank := true })
  else
    let column := if c == '\x08' then line.column - 1 else line.column + 1
    (line.written ++ [c],
      { isOpen := !onlyFirst, column := column, isBehindBlank := false })

/-- Puts tabs in the place of blanks. -/
def unexpanded (stops : TabStops) (onlyFirst : Bool) (text : List Char) : List Char :=
  let (written, line) := text.foldl (fun (written, line) c =>
    let (more, line) := stops.push onlyFirst line c
    (more.reverse ++ written, if c == '\n' then {} else line)) (([] : List Char), ({} : Tabbing))
  written.reverse ++ line.written

end TabStops

/-- Puts blanks in the place of tabs. -/
def expand : Work Unit :=
  let digits := "0123456789"
  withOptions { options s!"i{digits}" "t" [("tabs", 't'), ("initial", 'i')] with
      optional := digits.toList } 1 fun given => do
    let texts := given.options.filterMap fun (letter, value) =>
      if letter == 't' then some value
      else if letter.isDigit then some (String.singleton letter ++ value) else none
    match TabStops.ofTexts texts with
    | .error message => complain message 1
    | .ok stops =>
      let text ← joinedTexts given.operands 1
      say (String.ofList (stops.expanded (given.has 'i') true 0 text.toList))

/-- Puts tabs in the place of blanks. -/
def unexpand : Work Unit :=
  withOptions (options "a,0123456789\x01" "t" [("tabs", 't'), ("all", 'a'), ("first-only", '\x01')]) 1
    fun given => do
      let short := given.options.filterMap fun (letter, _) =>
        if letter.isDigit || letter == ',' then some letter else none
      let texts := (given.options.filter (·.1 == 't')).map Prod.snd
      let texts := if short.isEmpty then texts else texts ++ [String.ofList short]
      let onlyFirst := given.has '\x01' || !(given.has 'a' || given.has 't')
      match TabStops.ofTexts texts with
      | .error message => complain message 1
      | .ok stops =>
        let text ← joinedTexts given.operands 1
        say (String.ofList (stops.unexpanded onlyFirst text.toList))

end JavaStubs.Host

import JavaStubs.Host.Pattern

namespace JavaStubs.Host

/-- A regular expression. -/
inductive Regex where
  | nothing
  | any
  | set (negated : Bool) (items : List SetItem)
  | literal (c : Char)
  | lineStart
  | lineEnd
  | textStart
  | textEnd
  | wordStart
  | wordEnd
  /-- A place that is no bound of a word. -/
  | noWordBound
  /-- A place with no part of a word in front of it. -/
  | noWordBefore
  /-- A place with no part of a word behind it. -/
  | noWordAfter
  | group (number : Nat) (inner : Regex)
  | same (number : Nat)
  | chain (first second : Regex)
  | choice (first second : Regex)
  | repeated (inner : Regex) (least : Nat) (most : Option Nat)
  deriving Repr

namespace Regex

/-- An expression that fits just one text. -/
def ofText (text : String) : Regex :=
  text.toList.foldr (fun c rest => .chain (.literal c) rest) .nothing

/-- The letters, digits and the line that make up words. -/
def wordItems : List SetItem := [.named "alnum", .range '_' '_']

/-! ## Fitting -/

/-- How characters are compared, and whether the lines of a text count. -/
structure Mode where
  ignoreCase : Bool
  byLines : Bool
  deriving DecidableEq, Repr

/-- The mode in which characters count as they are, and a text is one line. -/
def Mode.plain : Mode := ⟨false, false⟩

/-- A place in a text: what is in front of it, the nearest character first, what is behind it, and
the texts of the groups so far. -/
structure Place where
  before : List Char
  rest : List Char
  groups : List (Nat × List Char)

/-- The place behind a character that has to fit. -/
def step (fits : Char → Bool) (place : Place) : List Place :=
  match place.rest with
  | c :: rest => if fits c then [{ place with before := c :: place.before, rest }] else []
  | [] => []

/-- The place behind a text that has to be there. -/
def stepText (fits : Char → Char → Bool) : List Char → Place → List Place
  | [], place => [place]
  | c :: more, place => (step (fits c) place).flatMap (stepText fits more)

/-- Whether a character is part of words. -/
def isWordPart (c : Option Char) : Bool := c.any fun c => wordItems.any (·.has c)

/-- Whether a character counts as another one. -/
def sameChar (mode : Mode) (c d : Char) : Bool :=
  d == c || (mode.ignoreCase && d.toLower == c.toLower)

def fitsSet (mode : Mode) (negated : Bool) (items : List SetItem) (c : Char) : Bool :=
  (items.any fun item => item.has c ||
    (mode.ignoreCase && (item.has c.toLower || item.has c.toUpper))) != negated &&
    !(negated && mode.byLines && c == '\n')

/-- The places behind texts that fit an expression, from a place on; the more eager ones come first.
`fuel` bounds the number of repetitions. -/
def places (mode : Mode) : Regex → Nat → Place → List Place
  | .nothing, _, place => [place]
  | .any, _, place => step (fun c => !(mode.byLines && c == '\n')) place
  | .set negated items, _, place => step (fitsSet mode negated items) place
  | .literal c, _, place => step (sameChar mode c) place
  | .lineStart, _, place =>
    if place.before.isEmpty || (mode.byLines && place.before.head? == some '\n') then [place] else []
  | .lineEnd, _, place =>
    if place.rest.isEmpty || (mode.byLines && place.rest.head? == some '\n') then [place] else []
  | .textStart, _, place => if place.before.isEmpty then [place] else []
  | .textEnd, _, place => if place.rest.isEmpty then [place] else []
  | .wordStart, _, place =>
    if !isWordPart place.before.head? && isWordPart place.rest.head?
    then [place] else []
  | .wordEnd, _, place =>
    if isWordPart place.before.head? && !isWordPart place.rest.head?
    then [place] else []
  | .noWordBound, _, place =>
    if isWordPart place.before.head? == isWordPart place.rest.head? then [place] else []
  | .noWordBefore, _, place => if isWordPart place.before.head? then [] else [place]
  | .noWordAfter, _, place => if isWordPart place.rest.head? then [] else [place]
  | .group number inner, fuel, place =>
    (places mode inner fuel place).map fun after =>
      let text := place.rest.take (place.rest.length - after.rest.length)
      { after with groups := (number, text) :: after.groups }
  | .same number, _, place =>
    match place.groups.lookup number with
    | some text => stepText (sameChar mode) text place
    | none => []
  | .chain first second, fuel, place =>
    (places mode first fuel place).flatMap (places mode second fuel)
  | .choice first second, fuel, place =>
    places mode first fuel place ++ places mode second fuel place
  | .repeated inner least most, fuel, place =>
    let rec times : Nat → Nat → Option Nat → Place → List Place
      | 0, _, _, place => [place]
      | fuel' + 1, least, most, place =>
        let again := if most = some 0 then [] else
          ((places mode inner fuel place).filter fun after =>
            after.rest.length < place.rest.length || 0 < least).flatMap
              (times fuel' (least - 1) (most.map (· - 1)))
        again ++ if least = 0 then [place] else []
    times fuel least most place

/-- What a search found: the text in front, the nearest character first, the text that fits, the text
behind, and the texts of the groups. -/
structure Match where
  before : List Char
  text : List Char
  rest : List Char
  groups : List (Nat × List Char)

/-- The longest text that fits at a place. -/
def matchAt? (regex : Regex) (mode : Mode) (place : Place) : Option Match :=
  let found := regex.places mode (place.rest.length + 2) place
  let longest := found.foldl (fun best after =>
    match best with
    | none => some after
    | some other => if after.rest.length < other.rest.length then some after else some other) none
  longest.map fun after =>
    ⟨place.before, place.rest.take (place.rest.length - after.rest.length), after.rest,
      after.groups⟩

/-- The first text from a place on that fits. -/
def searchFrom (regex : Regex) (mode : Mode) (before : List Char) : List Char → Option Match
  | [] => regex.matchAt? mode ⟨before, [], []⟩
  | c :: rest =>
    match regex.matchAt? mode ⟨before, c :: rest, []⟩ with
    | some found => some found
    | none => searchFrom regex mode (c :: before) rest

def search (regex : Regex) (mode : Mode) (text : List Char) : Option Match :=
  regex.searchFrom mode [] text

end Regex
end JavaStubs.Host

/-! ## Notations

Regular expressions as they are written: in the basic notation, in which a backslash gives some
characters their meaning, and in the extended one, in which it takes it away. A character that is
marked as quoted stands for itself in both.
-/
namespace JavaStubs.Host.Regex

open Pattern (Written)

/-- A way to write expressions. -/
structure Dialect where
  extended : Bool
  /-- Whether operators that make no sense where they stand are taken for characters. -/
  lenient : Bool
  deriving DecidableEq, Repr

/-- Why an expression is refused. -/
inductive Fault where
  | emptySet
  | openSet
  | openGroup
  | unopenedGroup
  | openBounds
  | badBounds
  | bigBounds
  | trailingBackslash
  | noSuchGroup
  | unknownClass
  | badRange
  | bareClass
  | nothingRepeated
  deriving DecidableEq, Repr

/-- The wording of a fault. -/
def Fault.message : Fault → String
  | .emptySet => "Invalid regular expression"
  | .openSet => "Unmatched [, [^, [:, [., or [="
  | .openGroup => "Unmatched ( or \\("
  | .unopenedGroup => "Unmatched ) or \\)"
  | .openBounds => "Unmatched \\\x7b"
  | .badBounds => "Invalid content of \\\x7b\\\x7d"
  | .bigBounds => "Regular expression too big"
  | .trailingBackslash => "Trailing backslash"
  | .noSuchGroup => "Invalid back reference"
  | .unknownClass => "Invalid character class name"
  | .badRange => "Invalid range end"
  | .bareClass => "character class syntax is [[:space:]], not [:space:]"
  | .nothingRepeated => "Invalid preceding regular expression"

def written (text : String) : List Written := text.toList.map (·, false)

/-! ## Marks -/

/-- What stands at the start of an expression: a character that means itself, or an operator. -/
inductive Mark where
  | plain (c : Char)
  | operator (c : Char)
  deriving DecidableEq, Repr

/-- The mark at the start of an expression and what is behind it. -/
def markAt (extended : Bool) : List Written → Option (Mark × List Written)
  | [] => none
  | (c, true) :: rest => some (.plain c, rest)
  | ('\\', false) :: (c, _) :: rest =>
    if "(){}|+?".toList.contains c then
      some (if extended then .plain c else .operator c, rest)
    else if ('1' ≤ c && c ≤ '9') || "<>bBwWsS'\x60".toList.contains c then some (.operator c, rest)
    else some (.plain c, rest)
  | (c, false) :: rest =>
    if ".[*^$\\".toList.contains c || (extended && "(){}|+?".toList.contains c)
    then some (.operator c, rest) else some (.plain c, rest)

/-! ## Sets -/

/-- The names of the classes of characters. -/
def classNames : List String :=
  ["alpha", "digit", "alnum", "upper", "lower", "space", "blank", "punct", "print", "graph",
    "cntrl", "xdigit"]

/-- The text in a pair of brackets and marks at the start of a set's inside, and what is behind. -/
def bracketed? (mark : Char) : List Written → Option (List Char × List Written)
  | ('[', false) :: (c, _) :: rest =>
    if c != mark then none
    else
      let rec upTo (done : List Char) : List Written → Option (List Char × List Written)
        | (c, _) :: (']', r) :: more =>
          if c == mark then some (done.reverse, more)
          else upTo (c :: done) ((']', r) :: more)
        | (c, _) :: more => upTo (c :: done) more
        | [] => none
      upTo [] rest
  | _ => none

/-- The character at the start of a set's inside, which may stand in brackets of its own. -/
def setCharAt (text : List Written) : Option (Char × List Written) :=
  match bracketed? '.' text, bracketed? '=' text, text with
  | some ([c], rest), _, _ => some (c, rest)
  | _, some ([c], rest), _ => some (c, rest)
  | _, _, (c, _) :: rest => some (c, rest)
  | _, _, [] => none

/-- The members of a set up to its end, and what is behind it; `fuel` is more than the number of
characters, and `first` says that none was read. -/
def setItems : Nat → Bool → List Written → Except Fault (List SetItem × List Written)
  | 0, _, _ => .error .openSet
  | fuel + 1, first, text =>
    match text, bracketed? ':' text, setCharAt text with
    | (']', false) :: rest, _, _ =>
      if first then setItemsFrom fuel ']' rest else .ok ([], rest)
    | _, some (name, rest), _ => do
      let name := String.ofList name
      if !classNames.contains name then throw .unknownClass
      let (items, rest) ← setItems fuel false rest
      return (.named name :: items, rest)
    | _, _, some (c, rest) => setItemsFrom fuel c rest
    | _, _, none => .error .openSet
where
  /-- The members of a set behind a character, which may begin a range. -/
  setItemsFrom : Nat → Char → List Written → Except Fault (List SetItem × List Written)
    | 0, _, _ => .error .openSet
    | fuel + 1, low, ('-', false) :: (']', false) :: rest => do
      let (items, rest) ← setItems fuel false (('-', true) :: (']', false) :: rest)
      return (.range low low :: items, rest)
    | fuel + 1, low, ('-', false) :: rest =>
      match setCharAt rest with
      | none => .error .openSet
      | some (high, rest) => do
        if high < low then throw .badRange
        let (items, rest) ← setItems fuel false rest
        return (.range low high :: items, rest)
    | fuel + 1, low, rest => do
      let (items, rest) ← setItems fuel false rest
      return (.range low low :: items, rest)

/-- The set whose inside begins a text, and what is behind it. -/
def setAt (text : List Written) : Except Fault (Regex × List Written) := do
  let (negated, inner) : Bool × List Written := match text with
    | ('^', false) :: rest => (true, rest)
    | text => (false, text)
  if inner.isEmpty then throw .emptySet
  let (items, rest) ← setItems (2 * inner.length + 2) true inner
  let length := inner.length - rest.length
  let edges := ((inner.take (length - 1)).map Prod.fst)
  if !negated && 2 < length && edges.head? == some ':' && edges.getLast? == some ':' then
    throw .bareClass
  return (.set negated items, rest)

/-! ## Repetitions -/

/-- What the braces of a repetition say. -/
inductive Bounds where
  /-- Bounds, and what is behind them. -/
  | found (least : Nat) (most : Option Nat) (rest : List Written)
  /-- No bounds at all; `ended` says that the expression ends in them. -/
  | none_ (ended : Bool)

/-- The closing brace at the start of a text taken away. -/
def pastBrace? (extended : Bool) (text : List Written) : Option (List Written) :=
  match markAt extended text with
  | some (.operator '\x7d', rest) => some rest
  | _ => none

/-- The bounds of a repetition. -/
def boundsAt (extended : Bool) (text : List Written) : Except Fault Bounds := do
  let digitsOf (text : List Written) : List Char := (text.map Prod.fst).takeWhile Char.isDigit
  let low := digitsOf text
  let behindLow := text.drop low.length
  let least := (String.ofList low).toNat?
  match pastBrace? extended behindLow, behindLow with
  | some rest, _ =>
    match least with
    | none => throw .badBounds
    | some n => if 32767 < n then throw .bigBounds else return .found n (some n) rest
  | none, (',', _) :: more =>
    let high := digitsOf more
    let behindHigh := more.drop high.length
    let least := least.getD 0
    let most := (String.ofList high).toNat?
    match pastBrace? extended behindHigh with
    | some rest =>
      if most.any (· < least) then throw .badBounds
      if 32767 < most.getD least then throw .bigBounds
      return .found least most rest
    | none => return .none_ (behindHigh.isEmpty)
  | none, behind => return .none_ (behind.isEmpty)

/-- An expression with all repetitions that follow it; `fuel` is at least the number of
characters. -/
def withRepetitions (dialect : Dialect) : Nat → Regex → List Written →
    Except Fault (Regex × List Written)
  | 0, inner, rest => .ok (inner, rest)
  | fuel + 1, inner, rest =>
    match markAt dialect.extended rest with
    | some (.operator '*', after) => withRepetitions dialect fuel (.repeated inner 0 none) after
    | some (.operator '+', after) => withRepetitions dialect fuel (.repeated inner 1 none) after
    | some (.operator '?', after) =>
      withRepetitions dialect fuel (.repeated inner 0 (some 1)) after
    | some (.operator '\x7b', after) => do
      match ← boundsAt dialect.extended after with
      | .found least most after =>
        withRepetitions dialect fuel (.repeated inner least most) after
      | .none_ ended =>
        if dialect.extended && dialect.lenient then return (inner, ('\x7b', true) :: after)
        throw (if ended then .openBounds else .badBounds)
    | _ => .ok (inner, rest)

/-! ## Whole expressions -/

/-- Where the reading of an expression stands. -/
structure Progress where
  rest : List Written
  /-- The number of groups that were opened. -/
  groups : Nat
  /-- The groups that were closed. -/
  closed : List Nat

/-- What a single mark stands for. -/
def single (extended atStart : Bool) (closed : List Nat) (mark : Mark) (rest : List Written) :
    Except Fault (Regex × List Written) :=
  match mark with
  | .plain c => .ok (.literal c, rest)
  | .operator '.' => .ok (.any, rest)
  | .operator '[' => setAt rest
  | .operator '\\' => .error .trailingBackslash
  | .operator '^' => .ok (if extended || atStart then .lineStart else .literal '^', rest)
  | .operator '$' =>
    let atEnd := match markAt extended rest with
      | none => true
      | some (.operator c, _) => c == ')' || c == '|'
      | _ => false
    .ok (if extended || atEnd then .lineEnd else .literal '$', rest)
  | .operator '\x60' => .ok (.textStart, rest)
  | .operator '\'' => .ok (.textEnd, rest)
  | .operator '<' => .ok (.wordStart, rest)
  | .operator '>' => .ok (.wordEnd, rest)
  | .operator 'b' => .ok (.choice .wordStart .wordEnd, rest)
  | .operator 'B' => .ok (.noWordBound, rest)
  | .operator 'w' => .ok (.set false wordItems, rest)
  | .operator 'W' => .ok (.set true wordItems, rest)
  | .operator 's' => .ok (.set false [.named "space"], rest)
  | .operator 'S' => .ok (.set true [.named "space"], rest)
  | .operator c =>
    if !c.isDigit then .ok (.literal c, rest)
    else
      let number := c.toNat - '0'.toNat
      if closed.contains number then .ok (.same number, rest) else .error .noSuchGroup

/-- The choice at the start of an expression, up to its end or to the end of a group; `fuel` is more
than the number of characters, and `depth` is the number of groups around. -/
def readChoice (dialect : Dialect) : Nat → Nat → Progress → Except Fault (Regex × Progress)
  | 0, _, progress => .ok (.nothing, progress)
  | fuel + 1, depth, progress => do
    let (first, progress) ← chainFrom fuel depth true progress
    match markAt dialect.extended progress.rest with
    | some (.operator '|', rest) =>
      let (second, progress) ← readChoice dialect fuel depth { progress with rest }
      return (.choice first second, progress)
    | _ => return (first, progress)
where
  /-- The expressions one behind another. -/
  chainFrom : Nat → Nat → Bool → Progress → Except Fault (Regex × Progress)
    | 0, _, _, progress => .ok (.nothing, progress)
    | fuel + 1, depth, atStart, progress =>
      match markAt dialect.extended progress.rest with
      | none => .ok (.nothing, progress)
      | some (.operator '|', _) => .ok (.nothing, progress)
      | some (.operator ')', rest) =>
        if 0 < depth then .ok (.nothing, progress)
        else if dialect.extended && dialect.lenient then
          chainFrom fuel depth false { progress with rest := (')', true) :: rest }
        else .error .unopenedGroup
      | some (.operator '(', rest) => do
        let number := progress.groups + 1
        let (inner, after) ← readChoice dialect fuel (depth + 1) ⟨rest, number, progress.closed⟩
        match markAt dialect.extended after.rest with
        | none => throw .openGroup
        | some (_, rest) =>
          let (first, rest) ← withRepetitions dialect fuel (.group number inner) rest
          let (others, progress) ←
            chainFrom fuel depth false ⟨rest, after.groups, number :: after.closed⟩
          return (.chain first others, progress)
      | some (mark, rest) => do
        let repeats := atStart && ['*', '+', '?', '\x7b'].any fun c => mark == .operator c
        if repeats && dialect.extended then
          if !dialect.lenient then throw .nothingRepeated
          let (_, rest) ← withRepetitions dialect fuel .nothing progress.rest
          chainFrom fuel depth false { progress with rest }
        else
          let mark := match repeats, mark with
            | true, .operator c => .plain c
            | _, mark => mark
          let (inner, rest) ← single dialect.extended atStart progress.closed mark rest
          let (first, rest) ← match inner with
            | .lineStart => pure (inner, rest)
            | inner => withRepetitions dialect fuel inner rest
          let (others, progress) ←
            chainFrom fuel depth (inner matches .lineStart) { progress with rest }
          return (.chain first others, progress)

def ofWritten (dialect : Dialect) (text : List Written) : Except Fault Regex :=
  (readChoice dialect (4 * text.length + 4) 0 ⟨text, 0, []⟩).map Prod.fst

def read (dialect : Dialect) (text : String) : Except Fault Regex :=
  ofWritten dialect (written text)

/-- The number of groups of an expression. -/
def groupCount : Regex → Nat
  | .group _ inner => groupCount inner + 1
  | .chain first second => groupCount first + groupCount second
  | .choice first second => groupCount first + groupCount second
  | .repeated inner _ _ => groupCount inner
  | _ => 0

end JavaStubs.Host.Regex

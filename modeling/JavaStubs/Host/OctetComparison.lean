import JavaStubs.Host.Inputs

namespace JavaStubs.Host

open Work

/-- What a byte comparison tells. -/
inductive OctetReport where
  /-- The first byte that differs. -/
  | first
  /-- All bytes that differ. -/
  | all
  /-- Only whether there are any. -/
  | nothing
  deriving DecidableEq, Repr

/-- A way to compare bytes. -/
structure OctetComparison where
  report : OctetReport
  /-- Whether bytes are shown as characters, too. -/
  shows : Bool
  /-- The number of bytes to compare. -/
  limit : Option Nat

/-- An octet as a character: with a caret if it is a control, and with a letter in front if it has its
highest bit. -/
def visibleOctet (c : Char) : String :=
  let low (n : Nat) : String :=
    if n < 0x20 then "^".push (Char.ofNat (n + 0x40))
    else if n = 0x7F then "^?" else String.singleton (Char.ofNat n)
  if 0x80 ≤ c.toNat then "M-" ++ low (c.toNat - 0x80) else low c.toNat

/-- Text with blanks in front, up to a width. -/
def padded (width : Nat) (text : String) : String :=
  String.ofList (List.replicate (width - text.length) ' ') ++ text

def octalOctet (c : Char) : String := padded 3 (String.ofList (Nat.toDigits 8 c.toNat))

namespace OctetComparison

/-- The pairs of octets that differ, with their numbers, and with those of their lines; the lists are as
far as both go. -/
def differences (first second : List Char) : List (Nat × Nat × Char × Char) :=
  let (found, _, _) := (first.zip second).foldl (fun (found, number, line) (a, b) =>
    let found := if a == b then found else (number, line, a, b) :: found
    (found, number + 1, if a == '\n' then line + 1 else line))
    (([] : List (Nat × Nat × Char × Char)), 1, 1)
  found.reverse

/-- Tells where a file ends in front of another one. -/
def tellEnd (comparison : OctetComparison) (name : String) (octets : List Char) : Work Unit := do
  if comparison.report = .nothing then return
  if octets.isEmpty then sayError s!"cmp: EOF on {name} which is empty\n"
  else
    let lines := octets.count '\n'
    let place :=
      if comparison.report = .all then ""
      else if octets.getLast? = some '\n' then s!", line {lines}" else s!", in line {lines + 1}"
    sayError s!"cmp: EOF on {name} after byte {octets.length}{place}\n"

/-- Compares the octets of two files. -/
def compare (comparison : OctetComparison) (firstName secondName : String)
    (first second : List Char) : Work Unit := do
  let kept (octets : List Char) : List Char :=
    (comparison.limit.map (octets.take ·)).getD octets
  let (first, second) := (kept first, kept second)
  let found := differences first second
  let least := min first.length second.length
  if !found.isEmpty then fail 1
  match comparison.report, found with
  | .all, found =>
    let width := (toString least).length
    found.forM fun (number, _, a, b) =>
      let place := padded width (toString number)
      if comparison.shows then
        let left := visibleOctet a
        let shown := left ++ String.ofList (List.replicate (4 - left.length) ' ')
        say s!"{place} {octalOctet a} {shown} {octalOctet b} {visibleOctet b}\n"
      else say s!"{place} {octalOctet a} {octalOctet b}\n"
  | .first, (number, line, a, b) :: _ =>
    if comparison.shows then
      let pair := s!"{octalOctet a} {visibleOctet a} {octalOctet b} {visibleOctet b}"
      say s!"{firstName} {secondName} differ: byte {number}, line {line} is {pair}\n"
    else say s!"{firstName} {secondName} differ: char {number}, line {line}\n"
  | _, _ => pure ()
  if first.length ≠ second.length && (found.isEmpty || comparison.report = .all) then
    fail 1
    if first.length < second.length then comparison.tellEnd firstName first
    else comparison.tellEnd secondName second

end OctetComparison

/-- The numbers of bytes to leave out of two files that a text gives. -/
def skipsOf (text : String) : Option (Nat × Nat) :=
  match Text.fieldsOf ':' text with
  | [both] => (Sizes.readAny? both).map fun n => (n, n)
  | [first, second] => do return (← Sizes.readAny? first, ← Sizes.readAny? second)
  | _ => none

/-- The options of a comparison of bytes. -/
def octetOptions : OptionTable :=
  options "bclsv" "in" [("print-bytes", 'b'), ("ignore-initial", 'i'), ("verbose", 'l'),
    ("bytes", 'n'), ("silent", 's'), ("quiet", 's'), ("version", 'v')]

/-- Compares two files byte by byte. -/
def cmp : Work Unit := do
  let call := (← get).call
  match octetOptions.read call.arguments with
  | .error fault => misuseNamed fault.message 2
  | .ok given =>
    let limits := (given.options.filter (·.1 == 'n')).map Prod.snd
    let badSkip := (given.options.filter (·.1 == 'i')).find? fun (_, text) => (skipsOf text).isNone
    let badLimit := limits.find? fun text => (Sizes.readAny? text).isNone
    let skipped := (given.options.filter (·.1 == 'i')).filterMap fun (_, text) => skipsOf text
    let (left, right) := skipped.foldl (fun (left, right) (a, b) => (max left a, max right b)) (0, 0)
    let extraSkips := (given.operands.drop 2).take 2
    if given.has 'l' && given.has 's' then
      misuseNamed "options -l and -s are incompatible" 2
    else if let some (_, text) := badSkip then
      misuseNamed s!"invalid --ignore-initial value '{text}'" 2
    else if let some text := badLimit then misuseNamed s!"invalid --bytes value '{text}'" 2
    else if given.operands.isEmpty then
      misuseNamed s!"missing operand after '{call.arguments.getLast?.getD call.name}'" 2
    else if let some text := extraSkips.find? fun text => (Sizes.readAny? text).isNone then
      misuseNamed s!"invalid --ignore-initial value '{text}'" 2
    else if let some text := given.operands[4]? then misuseNamed s!"extra operand '{text}'" 2
    else
      let report : OctetReport :=
        if given.has 'l' then .all else if given.has 's' then .nothing else .first
      let limit := (limits.filterMap Sizes.readAny?).foldl (fun least n =>
        some (min (least.getD n) n)) (none : Option Nat)
      let numbers := extraSkips.map fun text => (Sizes.readAny? text).getD 0
      let skips := (max left (numbers[0]?.getD 0), max right (numbers[1]?.getD 0))
      let comparison : OctetComparison := ⟨report, given.has 'b' || given.has 'c', limit⟩
      work comparison (given.operands[0]?.getD "-", given.operands[1]?.getD "-") skips
where
  /-- Compares the files of two names behind numbers of bytes. -/
  work (comparison : OctetComparison) (names : String × String) (skips : Nat × Nat) : Work Unit := do
    let isSame := names.1 == names.2 && skips.1 == skips.2
    let ownFirst := names.2 == "-"
    let one ← if ownFirst then opened names.2 else opened names.1
    match one with
    | .error cause => refuse comparison (if ownFirst then names.2 else names.1) cause
    | .ok one =>
      if isSame then return
      match ← (if ownFirst then opened names.1 else opened names.2) with
      | .error cause => refuse comparison (if ownFirst then names.1 else names.2) cause
      | .ok two =>
        match if ownFirst then (two, one) else (one, two) with
        | (none, _) => complain s!"{names.1}: {OsCause.isDirectory.wording}" 2
        | (_, none) => complain s!"{names.2}: {OsCause.isDirectory.wording}" 2
        | (some first, some second) =>
          comparison.compare names.1 names.2 (first.toList.drop skips.1) (second.toList.drop skips.2)
  /-- The octets of a file, or nothing for a directory. -/
  opened (name : String) : Work (Except OsCause (Option String)) := do
    match ← textOf name with
    | .ok text => return .ok (some text)
    | .error .isDirectory => return .ok none
    | .error cause => return .error cause
  /-- Ends because a file cannot be opened. -/
  refuse (comparison : OctetComparison) (name : String) (cause : OsCause) : Work Unit := do
    if comparison.report = .nothing then fail 2
    else complain s!"{name}: {cause.wording}" 2

end JavaStubs.Host

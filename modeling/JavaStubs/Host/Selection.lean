import JavaStubs.Host.Inputs
import JavaStubs.Host.SortTools

namespace JavaStubs.Host

open Work

/-! ## Equal lines in a row -/

/-- Which part of a line is compared. -/
structure LineKey where
  fields : Nat := 0
  characters : Nat := 0
  width : Option Nat := none
  ignoresCase : Bool := false

/-- The part of a line that is compared. -/
def LineKey.of (key : LineKey) (line : String) : List Char :=
  let skipped := (blankFields (line.length + 1) line.toList).drop key.fields
  let text := skipped.flatten.drop key.characters
  let text := match key.width with
    | some width => text.take width
    | none => text
  if key.ignoresCase then text.map Char.toLower else text

/-- Where empty lines are put between groups of lines. -/
inductive GroupMark where
  | bare
  | before
  | between
  | behind
  | around
  deriving DecidableEq, Repr

/-- Groups of lines, one behind another, with marks around them. -/
def GroupMark.join (mark : GroupMark) (ending : String) (groups : List (List String)) : String :=
  let texts := groups.map fun lines => String.join (lines.map (· ++ ending))
  match mark with
  | .bare => String.join texts
  | .before => String.join (texts.map (ending ++ ·))
  | .between => Text.joined ending texts
  | .behind => Text.joined ending texts ++ (if texts.isEmpty then "" else ending)
  | .around => String.join (texts.map (ending ++ ·)) ++ (if texts.isEmpty then "" else ending)

/-- How lines that are equal to their neighbours are shown. -/
structure RepeatView where
  key : LineKey := {}
  ending : Char := '\n'
  counts : Bool := false
  /-- Whether lines that stand alone are shown. -/
  showsSingle : Bool := true
  /-- Whether the first line of several equal ones is shown, or the last if all others are. -/
  showsFirst : Bool := true
  /-- Whether all but one line of several equal ones are shown, and what stands around them. -/
  repeated : Option GroupMark := none
  /-- Whether all lines are shown in groups. -/
  grouped : Option GroupMark := none

namespace RepeatView

/-- The lines that are shown of one group. -/
def shownOf (view : RepeatView) (group : List String) : List String :=
  match group with
  | [] => []
  | [line] => if view.showsSingle then [line] else []
  | line :: more =>
    if view.repeated.isSome then if view.showsFirst then group else (line :: more).dropLast
    else if view.showsFirst then [line] else []

/-- The text that lines make. -/
def text (view : RepeatView) (lines : List String) : String :=
  let ending := String.singleton view.ending
  let groups := lines.splitBy fun a b => view.key.of a == view.key.of b
  match view.grouped with
  | some mark => mark.join ending groups
  | none =>
    let counted (group : List String) (line : String) : String :=
      if !view.counts then line
      else
        let count := toString group.length
        Text.repeated " " (7 - count.length) ++ count ++ " " ++ line
    let shown := groups.map fun group => (view.shownOf group).map (counted group)
    (view.repeated.getD .bare).join ending (shown.filter (!·.isEmpty))

end RepeatView

/-- Why the options of `uniq` are refused. -/
inductive RepeatFault where
  | number (text counted : String)
  | choice (fault : ChoiceFault)

def skipCount (counted text : String) : Except RepeatFault Nat :=
  match text.toNat? with
  | some n => .ok n
  | none => .error (.number text counted)

/-- The view that one more option asks for; `digits` says that the number of fields is being spelled
by the options themselves. -/
def RepeatView.withOption (found : RepeatView × Bool) (option : Char × String) :
    Except RepeatFault (RepeatView × Bool) := do
  let (view, digits) := found
  let (letter, value) := option
  let unless_ (old : GroupMark) (name : String) (marks : List (String × GroupMark)) :
      Except RepeatFault GroupMark :=
    if value.isEmpty then .ok old else (chosenBy name marks value).mapError .choice
  let separate := ("separate", GroupMark.between)
  match letter with
  | 'c' => return ({ view with counts := true }, digits)
  | 'd' => return ({ view with showsSingle := false }, digits)
  | 'u' => return ({ view with showsFirst := false }, digits)
  | 'i' => return ({ view with key := { view.key with ignoresCase := true } }, digits)
  | 'z' => return ({ view with ending := '\x00' }, digits)
  | 'D' => return ({ view with showsSingle := false, repeated := some .bare }, digits)
  | '\x01' =>
    let mark ← unless_ .bare "--all-repeated" [("none", .bare), ("prepend", .before), separate]
    return ({ view with showsSingle := false, repeated := some mark }, digits)
  | '\x02' =>
    let mark ← unless_ .between "--group"
      [("prepend", .before), ("append", .behind), separate, ("both", .around)]
    return ({ view with grouped := some mark }, digits)
  | 'f' =>
    let n ← skipCount "fields to skip" value
    return ({ view with key := { view.key with fields := n } }, false)
  | 's' =>
    let n ← skipCount "bytes to skip" value
    return ({ view with key := { view.key with characters := n } }, digits)
  | 'w' =>
    let n ← skipCount "bytes to compare" value
    return ({ view with key := { view.key with width := some n } }, digits)
  | digit =>
    let old := if digits then view.key.fields else 0
    let fields := 10 * old + (digit.toNat - '0'.toNat)
    return ({ view with key := { view.key with fields } }, true)

/-- Why options do not go together, if they do not. -/
def RepeatView.clash? (view : RepeatView) : Option String :=
  let selects := view.counts || !view.showsSingle || !view.showsFirst || view.repeated.isSome
  if view.grouped.isSome && selects then
    some "--group is mutually exclusive with -c/-d/-D/-u"
  else if view.counts && view.repeated.isSome then
    some "printing all duplicated lines and repeat counts is meaningless"
  else none

/-- Prints lines without those equal to the line before. -/
def uniq : Work Unit :=
  withOptions { options "cdDiuz0123456789" "fsw" [("count", 'c'), ("repeated", 'd'),
      ("unique", 'u'), ("ignore-case", 'i'), ("skip-fields", 'f'), ("skip-chars", 's'),
      ("check-chars", 'w'), ("zero-terminated", 'z'), ("all-repeated", '\x01'),
      ("group", '\x02')] with optional := ['\x01', '\x02'] } 1 fun given => do
    match given.options.foldlM RepeatView.withOption ({}, false) with
    | .error (.number text counted) => complain s!"{text}: invalid number of {counted}" 1
    | .error (.choice fault) => misuse fault.message 1
    | .ok (view, _) =>
      let isSkip (text : String) :=
        text.startsWith "+" && ((text.drop 1).toString.toNat?).isSome
      let skip := (given.operands.filter isSkip).getLast?.bind fun text =>
        (text.drop 1).toString.toNat?
      let view := match skip with
        | some n => { view with key := { view.key with characters := n } }
        | none => view
      match given.operands.filter (!isSkip ·), view.clash? with
      | _ :: _ :: extra :: _, _ => misuse s!"extra operand {quotedName extra}" 1
      | _, some message => misuse message 1
      | operands, none =>
        let source := operands.head?.getD "-"
        match ← textOf source with
        | .error .isDirectory => complain s!"error reading {quotedName source}" 1
        | .error cause => complainOf source cause 1
        | .ok text =>
          let output := view.text (piecesOf view.ending text)
          match operands with
          | [_, target] =>
            if let .error cause ← writeText target output false then complainOf target cause 1
          | _ => say output

/-! ## Lines in common -/

/-- A line with the column that it belongs to: 1 and 2 for those of one text only, 3 for those of
both. -/
structure SharedLine where
  column : Nat
  line : String
  deriving Repr

/-- What comparing two texts has come to: the lines so far, the latest first, whether some line is
in one text only, and which texts were found to be out of order. -/
structure Comparison where
  shown : List SharedLine := []
  isUneven : Bool := false
  disorder : List Nat := []

/-- How far a text is read: the present line and those behind it, and the two lines before, the last
one first. -/
structure Reading where
  rest : List String
  past : List String := []

/-- How order is checked: always, never, or only when some line is in one text only. -/
inductive OrderCheck where
  | always
  | never
  | whenUneven
  deriving DecidableEq, Repr

namespace Reading

def next (reading : Reading) : Reading :=
  match reading.rest with
  | line :: rest => ⟨rest, line :: reading.past⟩
  | [] => reading

/-- Whether the line that was just reached stands in front of the one before it; at the end, the two
last lines are looked at again. -/
def isDisordered (reading : Reading) : Bool :=
  match reading.rest, reading.past with
  | line :: _, last :: _ => line < last
  | [], last :: earlier :: _ => last < earlier
  | _, _ => false

end Reading

/-- Notes the order of a text that has gone on to its next line. -/
def Comparison.checked (check : OrderCheck) (number : Nat) (reading : Reading)
    (comparison : Comparison) : Comparison :=
  let matters := check == .always || (check == .whenUneven && comparison.isUneven)
  if matters && reading.isDisordered && !comparison.disorder.contains number then
    { comparison with disorder := comparison.disorder ++ [number] }
  else comparison

/-- Compares two texts line by line; what must be in order and is not ends the comparison. `fuel` is
at least the number of lines. -/
def compareLines (check : OrderCheck) : Nat → Reading → Reading → Comparison → Comparison
  | 0, _, _, comparison => comparison
  | fuel + 1, a, b, comparison =>
    let went (column : Nat) (line : String) (isUneven : Bool) : Comparison :=
      { comparison with
        shown := ⟨column, line⟩ :: comparison.shown
        isUneven := comparison.isUneven || isUneven }
    let goOn (a b : Reading) (comparison : Comparison) : Comparison :=
      if check == .always && !comparison.disorder.isEmpty then comparison
      else compareLines check fuel a b comparison
    let first (line : String) :=
      goOn a.next b ((went 1 line true).checked check 1 a.next)
    let second (line : String) :=
      goOn a b.next ((went 2 line true).checked check 2 b.next)
    match a.rest, b.rest with
    | [], [] => comparison
    | line :: _, [] => first line
    | [], line :: _ => second line
    | lineA :: _, lineB :: _ =>
      if lineA < lineB then first lineA
      else if lineB < lineA then second lineB
      else
        let found := (went 3 lineB false).checked check 1 a.next
        if check == .always && !found.disorder.isEmpty then found
        else goOn a.next b.next (found.checked check 2 b.next)

/-- Prints what two ordered texts have in common and what they have not. -/
def comm : Work Unit :=
  withOptions (options "123z\x01\x02\x03" "\x04" [("zero-terminated", 'z'),
    ("check-order", '\x01'), ("nocheck-order", '\x02'), ("total", '\x03'),
    ("output-delimiter", '\x04')]) 1 fun given => do
    let delimiters := (given.options.filter (·.1 == '\x04')).map Prod.snd
    if !delimiters.all (some · == delimiters.head?) then
      complain "multiple output delimiters specified" 1
    else match given.operands with
    | [first, second] =>
      match ← textOf first, ← textOf second with
      | .error cause, _ => complainOf first cause 1
      | _, .error cause => complainOf second cause 1
      | .ok a, .ok b =>
        let ending := if given.has 'z' then '\x00' else '\n'
        let delimiter := delimiters.head?.getD "\t"
        let delimiter := if delimiter.isEmpty then "\x00" else delimiter
        let check := match given.last? ['\x01', '\x02'] with
          | some '\x01' => .always
          | some _ => .never
          | none => .whenUneven
        let a := piecesOf ending a
        let b := piecesOf ending b
        let result := compareLines check (a.length + b.length + 1) ⟨a, []⟩ ⟨b, []⟩ {}
        let hidden (column : Nat) := given.has (Nat.digitChar column)
        result.shown.reverse.forM fun ⟨column, line⟩ => do
          unless hidden column do
            let before := (List.range column).filter fun n => n ≠ 0 && !hidden n
            say (Text.repeated delimiter before.length ++ line.push ending)
        if given.has '\x03' && !(check == .always && !result.disorder.isEmpty) then
          let count (column : Nat) := toString (result.shown.filter (·.column == column)).length
          say ((Text.joined delimiter [count 1, count 2, count 3, "total"]).push ending)
        result.disorder.forM fun number => complain s!"file {number} is not in sorted order" 1
        if check != .always && !result.disorder.isEmpty then
          complain "input is not in sorted order" 1
    | [] => misuse "missing operand" 1
    | [first] => misuse s!"missing operand after {quotedName first}" 1
    | _ :: _ :: extra :: _ => misuse s!"extra operand {quotedName extra}" 1

end JavaStubs.Host

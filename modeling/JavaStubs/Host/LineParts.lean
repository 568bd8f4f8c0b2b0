import JavaStubs.Host.Inputs
import JavaStubs.Host.SortTools

namespace JavaStubs.Host

open Work

/-- A range of places; no last one stands for the end. -/
structure PlaceRange where
  low : Nat
  high : Option Nat
  deriving DecidableEq, Repr

namespace PlaceRange

/-- Whether a place lies in a range. -/
def contains (range : PlaceRange) (place : Nat) : Bool :=
  range.low ≤ place && range.high.all (place ≤ ·)

/-- The ranges with those put together that share places; they are in order. -/
def joined : List PlaceRange → List PlaceRange
  | [] => []
  | a :: rest =>
    match joined rest with
    | b :: more =>
      if a.high.all (b.low ≤ ·) then
        let high := match a.high, b.high with
          | some m, some n => some (max m n)
          | _, _ => none
        ⟨a.low, high⟩ :: more
      else a :: b :: more
    | [] => [a]

/-- The ranges of all places outside of others, from a place on. -/
def outside (start : Nat) : List PlaceRange → List PlaceRange
  | [] => [⟨start, none⟩]
  | ⟨low, high⟩ :: rest =>
    let before := if start < low then [PlaceRange.mk start (some (low - 1))] else []
    match high with
    | none => before
    | some high => before ++ outside (high + 1) rest

end PlaceRange

/-- Why a list of ranges is refused. -/
inductive RangeFault where
  | zero
  | manyDashes
  | noEnds
  | decreasing
  | tooLarge (digits : String)
  | stray (text : String)
  deriving DecidableEq, Repr

/-- The wording of a fault, for fields or for characters. -/
def RangeFault.message (ofFields : Bool) : RangeFault → String
  | .zero =>
    if ofFields then "fields are numbered from 1"
    else "byte/character positions are numbered from 1"
  | .manyDashes => if ofFields then "invalid field range" else "invalid byte or character range"
  | .noEnds => "invalid range with no endpoint: -"
  | .decreasing => "invalid decreasing range"
  | .tooLarge digits =>
    if ofFields then s!"field number {quotedName digits} is too large"
    else s!"byte/character offset {quotedName digits} is too large"
  | .stray text =>
    if ofFields then s!"invalid field value {quotedName text}"
    else s!"invalid byte/character position {quotedName text}"

def isListMark (c : Char) : Bool := c == ',' || c == ' ' || c == '\t'

/-- The number that a text begins with, if it begins with one, and the text behind it. -/
def placeNumber (text : List Char) : Except RangeFault (Option Nat × List Char) :=
  let digits := String.ofList (text.takeWhile Char.isDigit)
  let rest := text.dropWhile Char.isDigit
  match digits.toNat? with
  | some n => if Nat.pow 2 64 - 1 ≤ n then .error (.tooLarge digits) else .ok (some n, rest)
  | none => .ok (none, rest)

/-- The range that a text begins with, and the text behind it. -/
def rangeAt (text : List Char) : Except RangeFault (PlaceRange × List Char) := do
  let isEnd (rest : List Char) := rest.head?.all isListMark
  let (low, rest) ← placeNumber text
  match rest with
  | '-' :: rest =>
    if low == some 0 then throw .zero
    let (high, rest) ← placeNumber rest
    if rest.head? = some '-' then throw .manyDashes
    if !isEnd rest then throw (.stray (String.ofList rest))
    match low, high with
    | none, none => throw .noEnds
    | low, none => return (⟨low.getD 1, none⟩, rest)
    | low, some high =>
      if high < low.getD 1 then throw .decreasing
      return (⟨low.getD 1, some high⟩, rest)
  | rest =>
    if !isEnd rest then throw (.stray (String.ofList rest))
    match low with
    | some 0 => throw .zero
    | none => throw .zero
    | some n => return (⟨n, some n⟩, rest)

/-- The ranges of a list; `fuel` is at least its length. -/
def rangesFrom : Nat → List Char → Except RangeFault (List PlaceRange)
  | 0, _ => .ok []
  | fuel + 1, text => do
    let (range, rest) ← rangeAt text
    match rest with
    | [] => return [range]
    | _ :: rest => return range :: (← rangesFrom fuel rest)

/-- The ranges that a list describes, in order and apart. -/
def rangesOf (text : String) : Except RangeFault (List PlaceRange) :=
  (rangesFrom (text.length + 1) text.toList).map fun ranges =>
    PlaceRange.joined (ranges.mergeSort fun a b => a.low ≤ b.low)

/-- The items of a list whose places lie in ranges, range by range. -/
def chosenParts {α : Type} (ranges : List PlaceRange) (items : List α) : List (List α) :=
  let placed := items.zipIdx 1
  ranges.map fun range => (placed.filter fun (_, place) => range.contains place).map Prod.fst

/-- How parts of lines are printed. -/
structure PartView where
  ranges : List PlaceRange
  ending : Char
  /-- What stands between fields, if fields are chosen. -/
  separator : Option Char
  /-- What is put between the parts. -/
  output : String
  onlySeparated : Bool

namespace PartView

/-- The chosen part of a line, or nothing if the line is left out. -/
def partOf (view : PartView) (line : String) : Option String :=
  match view.separator with
  | none =>
    let parts := (chosenParts view.ranges line.toList).filter (!·.isEmpty)
    some (Text.joined view.output (parts.map String.ofList))
  | some c =>
    if !line.toList.contains c then if view.onlySeparated then none else some line
    else
      let parts := chosenParts view.ranges (Text.fieldsOf c line)
      some (Text.joined view.output parts.flatten)

/-- The chosen parts of all lines of a text. Where lines are themselves the fields, the text is one
line. -/
def text (view : PartView) (text : String) : String :=
  let lines := piecesOf view.ending text
  let lines := if view.separator == some view.ending && !lines.isEmpty
    then [Text.joined (String.singleton view.ending) lines] else lines
  String.join ((lines.filterMap view.partOf).map (·.push view.ending))

end PartView

/-- Prints parts of lines: characters, or fields. -/
def cut : Work Unit :=
  withOptions (options "snz\x01" "bcfd\x02" [("fields", 'f'), ("delimiter", 'd'), ("bytes", 'b'),
    ("characters", 'c'), ("only-delimited", 's'), ("output-delimiter", '\x02'),
    ("complement", '\x01'), ("zero-terminated", 'z')]) 1 fun given => do
    let lists := given.options.filter fun (letter, _) => ['b', 'c', 'f'].contains letter
    let isLong := (given.options.filter (·.1 == 'd')).any fun (_, text) => 1 < text.length
    match lists with
    | _ :: _ :: _ => misuse "only one type of list may be specified" 1
    | [] =>
      if isLong then misuse "the delimiter must be a single character" 1
      else misuse "you must specify a list of bytes, characters, or fields" 1
    | [(letter, list)] =>
      let ofFields := letter == 'f'
      if isLong then misuse "the delimiter must be a single character" 1
      else if given.has 'd' && !ofFields then
        misuse "an input delimiter may be specified only when operating on fields" 1
      else if given.has 's' && !ofFields then
        misuse "suppressing non-delimited lines makes sense\n\tonly when operating on fields" 1
      else match rangesOf list with
        | .error fault => misuse (fault.message ofFields) 1
        | .ok ranges =>
          let ranges := if given.has '\x01' then PlaceRange.outside 1 ranges else ranges
          let separator := ((given.value? 'd').getD "\t").toList.head?.getD '\x00'
          let standard := if ofFields then String.singleton separator else ""
          let output := match given.value? '\x02' with
            | some "" => "\x00"
            | found => found.getD standard
          let ending := if given.has 'z' then '\x00' else '\n'
          let separator := if ofFields then some separator else none
          let view : PartView := ⟨ranges, ending, separator, output, given.has 's'⟩
          forTexts given.operands 1 fun _ text => say (view.text text)

end JavaStubs.Host

import JavaStubs.Host.Format
import JavaStubs.Host.Options

/-!
Sequences of numbers with fractions: the numbers from one to another by a step, each in the shape that
the numbers they are given by suggest, or in the shape of a format.
-/
namespace JavaStubs.Host

open Work

/-- A number with a fraction: a whole number of units, each a power of ten. -/
structure Decimal where
  units : Int
  places : Nat
  deriving Repr

namespace Decimal

/-- The number of units of a number when each has more places. -/
def unitsAt (x : Decimal) (places : Nat) : Int := x.units * Nat.pow 10 (places - x.places)

/-- A number in the notation of a conversion. -/
def shown (shape : Shape) (conversion : Char) (x : Decimal) : String :=
  let small := conversion.toLower
  let body := shape.magnitude small x.units.natAbs (Nat.pow 10 x.places)
  let body := if conversion.isUpper then body.map Char.toUpper else body
  String.ofList (shape.pad true (shape.signOf (x.units < 0)) body)

end Decimal

/-- A bound of a sequence, as it is spelled: its value, none if there is no end, and how wide and
with how many places it is written, if that is known. -/
structure SequenceBound where
  value : Option Decimal
  width : Nat
  places : Option Nat
  deriving Repr

namespace SequenceBound

def one : SequenceBound := ⟨some ⟨1, 0⟩, 1, some 0⟩

/-- The bound that digits spell, with a fraction and a power of ten. -/
def ofDigits (negative : Bool) (whole : List Char) (fraction : Option (List Char))
    (power : Option Int) (width : Nat) : SequenceBound :=
  let behind := fraction.getD []
  let digits : Int := (String.ofList (whole ++ behind)).toNat?.getD 0
  let digits := if negative then -digits else digits
  let scale : Int := behind.length - power.getD 0
  let value : Decimal :=
    if 0 ≤ scale then ⟨digits, scale.toNat⟩ else ⟨digits * Nat.pow 10 (-scale).toNat, 0⟩
  let length := behind.length
  let width := match fraction with
    | none => width
    | some [] => width - 1
    | some _ => if whole.isEmpty then width + 1 else width
  match power with
  | none => ⟨some value, width, some length⟩
  | some power =>
    let size := power.natAbs
    if power < 0 then
      let more := if fraction.isNone || fraction == some [] then 1 else 0
      ⟨some value, width + more + size, some (length + size)⟩
    else
      let less := if fraction.isSome && length ≤ size && length ≠ 0 then 1 else 0
      ⟨some value, width - less + (size - length), some (length - size)⟩

/-- The bound that a text spells. -/
def ofText? (text : String) : Option SequenceBound :=
  let text := text.toList.dropWhile fun c => isNumberBlank c
  let (negative, body) := signAndRest text
  let lower := String.ofList (body.map Char.toLower)
  if lower == "inf" || lower == "infinity" then
    if negative then none else some ⟨none, 0, some 0⟩
  else match body with
  | '0' :: x :: digits =>
    if x == 'x' || x == 'X' then
      let (n, taken, rest) := leadingNumber 16 digits.length 0 0 digits
      if taken = 0 || !rest.isEmpty then none
      else some ⟨some ⟨if negative then -n else n, 0⟩, 0, some 0⟩
    else plain negative body
  | body => plain negative body
where
  /-- The bound that a text in decimal digits spells. -/
  plain (negative : Bool) (body : List Char) : Option SequenceBound :=
    let whole := body.takeWhile Char.isDigit
    let rest := body.drop whole.length
    let (fraction, rest) : Option (List Char) × List Char := match rest with
      | '.' :: more => (some (more.takeWhile Char.isDigit), more.dropWhile Char.isDigit)
      | rest => (none, rest)
    let width := whole.length + (if negative then 1 else 0) +
      (fraction.map (·.length + 1)).getD 0
    if whole.isEmpty && (fraction.getD []).isEmpty then none
    else match rest with
      | [] => some (ofDigits negative whole fraction none width)
      | e :: more =>
        let (down, digits) := signAndRest more
        if (e != 'e' && e != 'E') || digits.isEmpty || !digits.all Char.isDigit then none
        else
          let n : Int := (String.ofList digits).toNat?.getD 0
          some (ofDigits negative whole fraction (some (if down then -n else n)) width)

end SequenceBound

/-- A format of a sequence: a text, a directive, and another text. -/
structure SequenceFormat where
  before : String
  shape : Shape
  conversion : Char
  after : String

namespace SequenceFormat

def shown (format : SequenceFormat) (x : Decimal) : String :=
  format.before ++ x.shown format.shape format.conversion ++ format.after

/-- The text up to a directive, with `%%` standing for a percent sign, and what is behind the
directive's own percent sign, if there is one. -/
def plainPart : List Char → List Char × Option (List Char)
  | '%' :: '%' :: rest =>
    let (found, after) := plainPart rest
    ('%' :: found, after)
  | '%' :: rest => ([], some rest)
  | c :: rest =>
    let (found, after) := plainPart rest
    (c :: found, after)
  | [] => ([], none)

/-- The format that a text describes. -/
def ofText (text : String) : Except String SequenceFormat := do
  let name := quotedName text
  let (before, some rest) := plainPart text.toList
    | throw s!"format {name} has no % directive"
  let isFlag := "-+#0 '".toList.contains
  let flags := rest.takeWhile isFlag
  let rest := rest.dropWhile isFlag
  let width := (String.ofList (rest.takeWhile Char.isDigit)).toNat?.getD 0
  let (precision, rest) : Option Nat × List Char := match rest.dropWhile Char.isDigit with
    | '.' :: rest =>
      (some ((String.ofList (rest.takeWhile Char.isDigit)).toNat?.getD 0),
        rest.dropWhile Char.isDigit)
    | rest => (none, rest)
  let rest := if rest.head? = some 'L' then rest.drop 1 else rest
  match rest with
  | [] => throw s!"format {name} ends in %"
  | conversion :: rest =>
    if !"efgaEFGA".toList.contains conversion then
      throw s!"format {name} has unknown %{conversion} directive"
    let (after, more) := plainPart rest
    if more.isSome then throw s!"format {name} has too many % directives"
    return ⟨String.ofList before, ⟨flags, width, precision⟩, conversion, String.ofList after⟩

/-- The format that the bounds of a sequence suggest; `widens` asks for numbers of equal width. -/
def ofBounds (widens : Bool) (first step last : SequenceBound) : SequenceFormat :=
  let places := max (first.places.getD 0) (step.places.getD 0)
  let widthOf (bound : SequenceBound) : Nat :=
    let own := bound.places.getD 0
    bound.width + (places - own) - (own - places) +
      (if own = 0 && places ≠ 0 then 1 else 0) - (if own ≠ 0 && places = 0 then 1 else 0)
  let width := if widens then max (widthOf first) (widthOf last) else 0
  ⟨"", ⟨['0'], width, some places⟩, 'f', ""⟩

end SequenceFormat

/-- Numbers of units from one to another, by a step; `fuel` is at least their number. -/
def sequence (step last : Int) : Nat → Int → List Int
  | 0, _ => []
  | fuel + 1, n =>
    if (0 < step && last < n) || (step < 0 && n < last) then []
    else n :: sequence step last fuel (n + step)

/-- How many numbers a sequence without an end has before it is cut off. -/
def endlessLength : Nat := 4096

/-- The numbers from one bound to another. -/
def numbersOf (first step last : SequenceBound) : List Decimal :=
  let start := first.value.getD ⟨0, 0⟩
  let stride := step.value.getD ⟨0, 0⟩
  let places := max start.places (max stride.places ((last.value.map Decimal.places).getD 0))
  let start := start.unitsAt places
  let stride := stride.unitsAt places
  let found := match last.value with
    | some last =>
      let stop := last.unitsAt places
      sequence stride stop ((stop - start).natAbs / stride.natAbs + 1) start
    | none => sequence stride (start + stride * endlessLength) endlessLength start
  found.map (⟨·, places⟩)

/-- Prints the numbers from one to another. -/
def seq : Work Unit := do
  let isNumber (text : String) : Bool := match text.toList with
    | '-' :: c :: _ => c == '.' || c.isDigit
    | _ => false
  let arguments := (← get).call.arguments
  let table := options "w" "sf" [("equal-width", 'w'), ("separator", 's'), ("format", 'f')]
  let (leading, rest) := leadingOptions isNumber arguments
  match table.readLeading leading with
  | .error fault => misuse fault.message 1
  | .ok given =>
    let operands := given.operands ++ rest
    match operands with
    | [] => misuse "missing operand" 1
    | _ :: _ :: _ :: extra :: _ => misuse s!"extra operand {quotedName extra}" 1
    | operands =>
      match (given.value? 'f').mapM SequenceFormat.ofText with
      | .error message => complain message 1
      | .ok format =>
        if format.isSome && given.has 'w' then
          misuse "format string may not be specified when printing equal width strings" 1
        else match operands.find? fun text => (SequenceBound.ofText? text).isNone with
          | some text => misuse (refused text) 1
          | none => print given format operands (operands.filterMap SequenceBound.ofText?)
where
  /-- The arguments that stand before the first number, values of options among them. -/
  leadingOptions (isNumber : String → Bool) : List String → List String × List String
    | [] => ([], [])
    | text :: rest =>
      if !text.startsWith "-" || isNumber text then ([], text :: rest)
      else if ["-s", "-f", "--separator", "--format"].contains text then
        match rest with
        | value :: rest =>
          let (leading, rest) := leadingOptions isNumber rest
          (text :: value :: leading, rest)
        | [] => ([text], [])
      else
        let (leading, rest) := leadingOptions isNumber rest
        (text :: leading, rest)
  /-- The complaint about an argument that is no number. -/
  refused (text : String) : String :=
    let (_, body) := signAndRest text.toList
    let kind := quotedName "not-a-number"
    if String.ofList (body.map Char.toLower) == "nan" then
      s!"invalid {kind} argument: {quotedName text}"
    else s!"invalid floating point argument: {quotedName text}"
  /-- Prints the numbers. -/
  print (given : Invocation) (format : Option SequenceFormat) (operands : List String)
      (bounds : List SequenceBound) : Work Unit := do
    let (first, step, last) := match bounds with
      | [last] => (SequenceBound.one, SequenceBound.one, last)
      | [first, last] => (first, .one, last)
      | first :: step :: last :: _ => (first, step, last)
      | [] => (.one, .one, .one)
    if (step.value.map Decimal.units) = some 0 then
      let shown := quotedName ((operands[1]?).getD "")
      misuse s!"invalid Zero increment value: {shown}" 1
    else
      let format := format.getD (SequenceFormat.ofBounds (given.has 'w') first step last)
      let numbers := numbersOf first step last
      unless numbers.isEmpty do
        say (Text.joined ((given.value? 's').getD "\n") (numbers.map format.shown) ++ "\n")

end JavaStubs.Host

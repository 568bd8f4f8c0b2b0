import JavaStubs.Records.Value

namespace JavaStubs.Records

open Host (Shape)

/-- Why a layout cannot be filled. -/
inductive LayoutFault where
  | fewValues
  /-- The directive of a number is none. -/
  | improper (number : Nat)
  deriving DecidableEq, Repr

/-- The wording of a fault, in a call of a function with a layout. -/
def LayoutFault.message (caller layout : String) : LayoutFault → String
  | .fewValues => s!"not enough arguments passed to {caller}(\"{layout}\")"
  | .improper number => s!"improper conversion(number {number}) in {caller}(\"{layout}\")"

/-- The values that are left, and how a number is shown as a text. -/
structure Filling where
  values : List Value
  /-- The number of the directive. -/
  number : Nat
  shown : Binary64 → String

def Filling.textOf (filling : Filling) : Value → String
  | .unset => ""
  | .number x => filling.shown x
  | .text text => text
  | .input text => text

/-- The number in front of a text, which a star takes from the values, and what is left. -/
def measure (filling : Filling) (text : List Char) : Except LayoutFault (Int × List Char × Filling) :=
  match text with
  | '*' :: rest =>
    match filling.values with
    | [] => .error .fewValues
    | value :: values => .ok (wholeOf value.toNumber, rest, { filling with values })
  | text =>
    let digits := text.takeWhile Char.isDigit
    .ok (((String.ofList digits).toNat?.getD 0 : Nat), text.dropWhile Char.isDigit, filling)

/-- The character that a value stands for: that of a number, or the first one of a text. -/
def characterOf (value : Value) : Char :=
  match value, value.number? with
  | .unset, _ => '\x00'
  | .text text, _ => text.toList.head?.getD '\x00'
  | _, some x => Char.ofNat (wholeOf x % 256).toNat
  | .input text, none => text.toList.head?.getD '\x00'
  | .number _, none => '\x00'

/-- A value by a conversion; `isSized` says that there was a letter for a size. -/
def converted (filling : Filling) (shape : Shape) (isSized : Bool) (conversion : Char) (value : Value) :
    Except LayoutFault String :=
  let whole := wholeOf value.toNumber
  let natural := (whole % (mostWhole + 1)).toNat
  match conversion with
  | 'd' => .ok (shape.decimal whole)
  | 'i' => .ok (shape.decimal whole)
  | 'u' => .ok (shape.based 10 false natural)
  | 'o' => .ok (shape.based 8 false natural)
  | 'x' => .ok (shape.based 16 false natural)
  | 'X' => .ok (shape.based 16 true natural)
  | conversion =>
    if isSized then .error (.improper filling.number)
    else if conversion == 'c' then
      .ok (String.ofList ({ shape with flags := shape.flags.filter (· != '0') }.pad false []
        [characterOf value]))
    else if conversion == 's' then .ok (shape.text (filling.textOf value))
    else if "eEfFgG".toList.contains conversion then
      .ok (floatingText shape conversion value.toNumber)
    else .error (.improper filling.number)

/-- What a directive shows, what is behind it, and the values left. -/
def directive (filling : Filling) (text : List Char) :
    Except LayoutFault (String × List Char × Filling) := do
  let filling := { filling with number := filling.number + 1 }
  if filling.values.isEmpty then throw .fewValues
  let isFlag := "-+ #0".toList.contains
  let flags := text.takeWhile isFlag
  let (width, rest, filling) ← measure filling (text.dropWhile isFlag)
  let flags := if width < 0 then '-' :: flags else flags
  let (precision, rest, filling) ← match rest with
    | '.' :: rest => do
      let (n, rest, filling) ← measure filling rest
      pure (if n < 0 then none else some n.toNat, rest, filling)
    | rest => pure (none, rest, filling)
  let sizes := rest.takeWhile fun c => c == 'l' || c == 'h'
  match rest.drop sizes.length, filling.values with
  | _, [] => throw .fewValues
  | [], _ => throw (.improper filling.number)
  | conversion :: rest, value :: values =>
    let shown ← converted filling ⟨flags, width.natAbs, precision⟩ (!sizes.isEmpty) conversion value
    return (shown, rest, { filling with values })

/-- A layout with values in it, and why no more of it could be filled; `fuel` is at least its length. -/
def filledFrom : Nat → Filling → List Char → List String → String × Option LayoutFault
  | 0, _, _, done => (String.join done.reverse, none)
  | _ + 1, _, [], done => (String.join done.reverse, none)
  | fuel + 1, filling, '%' :: '%' :: rest, done => filledFrom fuel filling rest ("%" :: done)
  | fuel + 1, filling, '%' :: rest, done =>
    match directive filling rest with
    | .error fault => (String.join done.reverse, some fault)
    | .ok (shown, rest, filling) => filledFrom fuel filling rest (shown :: done)
  | fuel + 1, filling, c :: rest, done =>
    let plain := c :: rest.takeWhile (· != '%')
    filledFrom fuel filling (rest.dropWhile (· != '%')) (String.ofList plain :: done)

/-- A layout with values in it, and why no more of it could be filled. -/
def filled (shown : Binary64 → String) (layout : String) (values : List Value) :
    String × Option LayoutFault :=
  filledFrom (layout.length + 1) ⟨values, 0, shown⟩ layout.toList []

/-- A number as a text: the digits of a whole number, and any other one by a layout. -/
def numberText (layout : String) (x : Binary64) : String :=
  match wholeText? x with
  | some digits => digits
  | none =>
    if layout == "%.6g" then floatingText ⟨[], 0, some 6⟩ 'g' x
    else (filled (floatingText ⟨[], 0, some 6⟩ 'g') layout [.number x]).1

end JavaStubs.Records

import JavaStubs.Host.Format
import JavaStubs.Number.Binary64

/-!
The values of scripts that work on records. A value is a number or a text; a text that was read may be
the spelling of a number, and then counts as one where two values are compared.
-/
namespace JavaStubs.Records

/-- A value. -/
inductive Value where
  /-- What a variable holds before it is set. -/
  | unset
  | number (x : Binary64)
  | text (text : String)
  /-- A text that was read. -/
  | input (text : String)
  deriving Repr, Inhabited

/-! ## Numbers in texts -/

/-- Whether a character is a blank in front of a number. -/
def isSpace (c : Char) : Bool := c == ' ' || (9 ≤ c.toNat && c.toNat ≤ 13)

/-- Whether a text begins with a word, whatever its case. -/
def pastWord? (word : String) (text : List Char) : Option (List Char) :=
  let taken := text.take word.length
  if String.ofList (taken.map Char.toLower) == word then some (text.drop word.length) else none

/-- The number in the digits of base sixteen at the start of a text, and the text behind it. -/
def hexadecimalAt (text : List Char) : Option (Nat × List Char) :=
  let (value, taken, rest) := Host.leadingNumber 16 text.length 0 0 text
  if taken = 0 then none else some (value, rest)

/-- The number in decimal digits at the start of a text, and the text behind it. -/
def decimalAt (negative : Bool) (text : List Char) : Option (Binary64 × List Char) :=
  let whole := text.takeWhile Char.isDigit
  let rest := text.dropWhile Char.isDigit
  let (fraction, rest) := match rest with
    | '.' :: more => (more.takeWhile Char.isDigit, more.dropWhile Char.isDigit)
    | rest => ([], rest)
  if whole.isEmpty && fraction.isEmpty then none
  else
    let (power, rest) : Int × List Char := match rest with
      | e :: more =>
        let (down, digits) := Host.signAndRest more
        let found := digits.takeWhile Char.isDigit
        if (e == 'e' || e == 'E') && !found.isEmpty then
          let n : Int := (String.ofList found).toNat?.getD 0
          (if down then -n else n, digits.dropWhile Char.isDigit)
        else (0, rest)
      | [] => (0, [])
    let digits := (String.ofList (whole ++ fraction)).toNat?.getD 0
    some (Binary64.ofDecimal negative digits (power - fraction.length), rest)

/-- The number at the start of a text, and the text behind it. -/
def numberAt (text : List Char) : Option (Binary64 × List Char) :=
  let (negative, text) := Host.signAndRest (text.dropWhile isSpace)
  let word (word : String) (x : Binary64) : Option (Binary64 × List Char) :=
    (pastWord? word text).map (x, ·)
  match text with
  | '0' :: x :: rest =>
    if x == 'x' || x == 'X' then
      match hexadecimalAt rest with
      | some (n, rest) => some (Binary64.ofScaled negative (Binary64.signed negative n) 0, rest)
      | none => some (Binary64.withSign negative 0, x :: rest)
    else decimalAt negative text
  | text =>
    decimalAt negative text <|> word "infinity" (.infinity negative) <|>
      word "inf" (.infinity negative) <|>
      word "nan" (if negative then Binary64.invalid else Binary64.notANumber)

/-- The number that a text begins with, or zero. -/
def numberIn (text : String) : Binary64 :=
  ((numberAt text.toList).map Prod.fst).getD Binary64.zero

def isFieldBlank (c : Char) : Bool := c == ' ' || c == '\t' || c == '\n'

/-- The number that a text spells from its start to its end, with nothing but blanks around it. -/
def spelledNumber? (text : String) : Option Binary64 :=
  let chars := Text.dropTrailing isFieldBlank (text.toList.dropWhile isFieldBlank)
  let begins : Bool := chars.head?.any fun c => c.isDigit || c == '+' || c == '-' || c == '.'
  let ends : Bool := chars.getLast?.any fun c => c.isDigit || c == '.'
  if !begins || !ends then none
  else match numberAt chars with
    | some (x, []) => some x
    | _ => none

/-! ## Numbers as texts -/

/-- The least number that is too large for a whole number with a sign. -/
def signedLimit : Int := Nat.pow 2 63

def mostWhole : Int := Nat.pow 2 64 - 1

/-- The whole number for a number: one that is too large stands for the greatest one. -/
def wholeOf (x : Binary64) : Int :=
  match x.whole? with
  | some n => max (-signedLimit) (min mostWhole n)
  | none =>
    match x.reading with
    | .infinite false => mostWhole
    | _ => -signedLimit

/-- The decimal digits of a number that is whole and not too large. -/
def wholeText? (x : Binary64) : Option String :=
  match x.toInt? with
  | none => none
  | some n =>
    if n < -signedLimit || mostWhole + 1 < n then none
    else some (toString (min n mostWhole))

/-- A number with a fraction, by a conversion. -/
def floatingText (shape : Host.Shape) (conversion : Char) (x : Binary64) : String :=
  if x.reading = .notANumber && x.isNegative then
    let body := if conversion.isUpper then "NAN" else "nan"
    String.ofList (shape.pad false ['-'] body.toList)
  else shape.floating conversion x

/-! ## Values -/

namespace Value

def ofBool (truth : Bool) : Value := .number (Binary64.ofNat (if truth then 1 else 0))

def ofNat (n : Nat) : Value := .number (Binary64.ofNat n)

def toNumber : Value → Binary64
  | .unset => Binary64.zero
  | .number x => x
  | .text shown => numberIn shown
  | .input shown => numberIn shown

/-- The number that a value is, if it is one. -/
def number? : Value → Option Binary64
  | .unset => some Binary64.zero
  | .number x => some x
  | .text _ => none
  | .input shown => spelledNumber? shown

def isTrue (value : Value) : Bool :=
  match value, value.number? with
  | .text shown, _ => !shown.isEmpty
  | _, some x => !x.isZero
  | .input shown, none => !shown.isEmpty
  | _, none => false

end Value
end JavaStubs.Records

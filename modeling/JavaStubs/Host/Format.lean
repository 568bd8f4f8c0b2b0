import JavaStubs.Host.Process
import JavaStubs.Number.Binary64

/-!
Formats, by which arguments are printed: a text with directives, each of which prints one argument
in a form of its own. A format is used again as long as there are arguments left. What cannot be
printed is complained about in the wording of the program.

Programs differ in the backslash escapes that they take: in whether octal numbers need a zero in front, in
whether hexadecimal numbers are taken, and in what stands for a quotation mark.
-/
namespace JavaStubs.Host

/-! ## Escapes -/

/-- Which escapes are taken besides the letters. -/
structure EscapeRules where
  /-- Up to three octal digits behind a zero make a number. -/
  markedOctal : Bool
  /-- Up to three octal digits make a number, whatever the first is. -/
  plainOctal : Bool
  hexadecimal : Bool
  /-- The quotation mark may be escaped. -/
  quote : Bool
  /-- The letter `c` ends all printing. -/
  ending : Bool

namespace EscapeRules

/-- The escapes of a format in scripts. -/
def scriptFormat : EscapeRules := ⟨false, true, false, true, false⟩

/-- The escapes of a text in scripts. -/
def scriptText : EscapeRules := ⟨true, true, false, false, true⟩

def format : EscapeRules := ⟨false, true, true, true, true⟩

def text : EscapeRules := ⟨true, true, true, true, true⟩

/-- The escapes of a text to be echoed elsewhere. -/
def echo : EscapeRules := ⟨true, true, true, false, true⟩

end EscapeRules

/-- The number of a digit in any base up to sixteen. -/
def digitValue? (c : Char) : Option Nat :=
  if '0' ≤ c && c ≤ '9' then some (c.toNat - '0'.toNat)
  else if 'a' ≤ c && c ≤ 'f' then some (c.toNat - 'a'.toNat + 10)
  else if 'A' ≤ c && c ≤ 'F' then some (c.toNat - 'A'.toNat + 10)
  else none

/-- The number that at most `count` digits of a base spell at the start of a text, how many they are,
and the text behind them. -/
def leadingNumber (base : Nat) : Nat → Nat → Nat → List Char → Nat × Nat × List Char
  | count + 1, value, taken, c :: rest =>
    match (digitValue? c).filter (· < base) with
    | some digit => leadingNumber base count (base * value + digit) (taken + 1) rest
    | none => (value, taken, c :: rest)
  | _, value, taken, text => (value, taken, text)

/-- The character of a letter behind a backslash. -/
def letterEscape? : Char → Option Char
  | 'a' => some '\x07'
  | 'b' => some '\x08'
  | 'e' => some '\x1b'
  | 'f' => some '\x0c'
  | 'n' => some '\n'
  | 'r' => some '\x0d'
  | 't' => some '\t'
  | 'v' => some '\x0b'
  | '\\' => some '\\'
  | _ => none

/-- What the text behind a backslash stands for, and the text behind that; nothing if it ends all
printing. -/
def escapeAt (rules : EscapeRules) : List Char → Option (List Char × List Char)
  | [] => some (['\\'], [])
  | c :: rest =>
    let octal (count : Nat) (text : List Char) :=
      let (value, _, rest) := leadingNumber 8 count 0 0 text
      some ([Char.ofNat (value % 256)], rest)
    if let some plain := letterEscape? c then some ([plain], rest)
    else if c == 'c' && rules.ending then none
    else if c == '"' && rules.quote then some (['"'], rest)
    else if c == '0' && rules.markedOctal then octal 3 rest
    else if '0' ≤ c && c ≤ '7' && rules.plainOctal then octal 3 (c :: rest)
    else if c == 'x' && rules.hexadecimal then
      let (value, taken, after) := leadingNumber 16 2 0 0 rest
      if taken = 0 then some (['\\', 'x'], rest) else some ([Char.ofNat value], after)
    else some (['\\', c], rest)

/-- A text with its escapes taken, and whether it ends all printing; `fuel` is at least its
length. -/
def unescapedFrom (rules : EscapeRules) : Nat → List Char → List Char × Bool
  | fuel + 1, '\\' :: rest =>
    match escapeAt rules rest with
    | none => ([], true)
    | some (chars, rest) =>
      let (more, ends) := unescapedFrom rules fuel rest
      (chars ++ more, ends)
  | fuel + 1, c :: rest =>
    let (more, ends) := unescapedFrom rules fuel rest
    (c :: more, ends)
  | _, _ => ([], false)

/-- A text with its escapes taken, and whether it ends all printing. -/
def unescaped (rules : EscapeRules) (text : String) : String × Bool :=
  let (chars, ends) := unescapedFrom rules (text.length + 1) text.toList
  (String.ofList chars, ends)

/-! ## Directives -/

/-- How a program reads formats: its escapes, and how it words its complaints. -/
structure FormatStyle where
  formatRules : EscapeRules
  textRules : EscapeRules
  /-- Letters that may stand in front of a conversion and say nothing. -/
  sizes : String
  /-- Whether a text with escapes may be given a width. -/
  widensEscaped : Bool
  /-- Whether a number may be missing behind a quote. -/
  lonelyQuote : Bool
  notNumeric : String → String
  notWhole : String → String
  outOfRange : String → String
  invalid : String → String
  /-- The complaint about a directive without an end, if it is not invalid like any other. -/
  unfinished : Option String
  invalidCode : Nat

/-- The shape that a directive gives to what it prints. -/
structure Shape where
  flags : List Char
  width : Nat
  precision : Option Nat

namespace Shape

def has (shape : Shape) (flag : Char) : Bool := shape.flags.contains flag

/-- A text brought to the width, behind a sign; `zeros` says that zeros may fill it. -/
def pad (shape : Shape) (zeros : Bool) (sign body : List Char) : List Char :=
  let missing := shape.width - (sign.length + body.length)
  if shape.has '-' then sign ++ body ++ List.replicate missing ' '
  else if zeros && shape.has '0' then sign ++ List.replicate missing '0' ++ body
  else List.replicate missing ' ' ++ sign ++ body

def text (shape : Shape) (text : String) : String :=
  String.ofList (shape.pad false [] (match shape.precision with
    | some length => text.toList.take length
    | none => text.toList))

def signOf (shape : Shape) (negative : Bool) : List Char :=
  if negative then ['-'] else if shape.has '+' then ['+'] else if shape.has ' ' then [' '] else []

/-- Digits, at least as many as the precision asks for. -/
def digits (shape : Shape) (digits : List Char) : List Char :=
  match shape.precision with
  | none => digits
  | some least =>
    let digits := if least = 0 && digits == ['0'] then [] else digits
    List.replicate (least - digits.length) '0' ++ digits

def decimal (shape : Shape) (n : Int) : String :=
  String.ofList (shape.pad shape.precision.isNone (shape.signOf (n < 0))
    (shape.digits (Nat.toDigits 10 n.natAbs)))

/-- A natural number in the digits of a base, small or capital. -/
def based (shape : Shape) (base : Nat) (capital : Bool) (n : Nat) : String :=
  let found := Nat.toDigits base n
  let found := shape.digits (if capital then found.map Char.toUpper else found)
  let isMarked := shape.has '#' && n ≠ 0
  let mark := if isMarked && base = 16 then ['0', if capital then 'X' else 'x'] else []
  let found := if isMarked && base = 8 && found.head? ≠ some '0' then '0' :: found else found
  String.ofList (shape.pad shape.precision.isNone mark found)

/-- Digits with a point before the last `places`. -/
def withPoint (places : Nat) (digits : List Char) (keep : Bool) : List Char :=
  let digits := List.replicate (places + 1 - digits.length) '0' ++ digits
  let whole := digits.take (digits.length - places)
  if places = 0 then whole ++ (if keep then ['.'] else [])
  else whole ++ '.' :: digits.drop (digits.length - places)

/-- A quotient with a number of places behind the point. -/
def fixedDigits (num den places : Nat) (keep : Bool) : List Char :=
  withPoint places (Nat.toDigits 10 (Binary64.roundEven (num * Nat.pow 10 places) den)) keep

/-- A positive quotient times a power of ten, rounded. -/
def scaledRound (num den : Nat) (power : Int) : Nat :=
  if 0 ≤ power then Binary64.roundEven (num * Nat.pow 10 power.toNat) den
  else Binary64.roundEven num (den * Nat.pow 10 (-power).toNat)

/-- The digits of a quotient, one before the point and some behind, and their power of ten. -/
def leadingDigits (num den places : Nat) : List Char × Int :=
  if num = 0 then (List.replicate (places + 1) '0', 0)
  else
    let exponent := Binary64.decimalExponent num den
    let found := Nat.toDigits 10 (scaledRound num den (places - exponent))
    if found.length ≤ places + 1 then (found, exponent) else (found.dropLast, exponent + 1)

/-- An exponent of at least two digits. -/
def exponent (exponent : Int) : List Char :=
  let size := Nat.toDigits 10 exponent.natAbs
  'e' :: (if exponent < 0 then '-' else '+') :: (if size.length < 2 then '0' :: size else size)

/-- A number without the zeros at the end of its fraction. -/
def trimZeros (digits : List Char) : List Char :=
  if !digits.contains '.' then digits
  else
    let kept := Text.dropTrailing (· == '0') digits
    if kept.getLast? = some '.' then kept.dropLast else kept

/-- The magnitude of a number in the notation of a conversion. -/
def magnitude (shape : Shape) (conversion : Char) (num den : Nat) : List Char :=
  let places := shape.precision.getD 6
  let keep := shape.has '#'
  match conversion with
  | 'f' => fixedDigits num den places keep
  | 'e' =>
    let (digits, power) := leadingDigits num den places
    withPoint places digits keep ++ exponent power
  | _ =>
    let places := max places 1
    let (digits, power) := leadingDigits num den (places - 1)
    let finished (digits : List Char) := if keep then digits else trimZeros digits
    if power < -4 || (places : Int) ≤ power then
      finished (withPoint (places - 1) digits keep) ++ exponent power
    else finished (fixedDigits num den ((places : Int) - 1 - power).toNat keep)

/-- A number with a fraction. -/
def floating (shape : Shape) (conversion : Char) (x : Binary64) : String :=
  let small := conversion.toLower
  let (zeros, negative, body) := match x.reading with
    | .notANumber => (false, false, "nan".toList)
    | .infinite negative => (false, negative, "inf".toList)
    | .finite negative m q =>
      let (num, den) := Binary64.scaleTwo m 1 q
      (true, negative, shape.magnitude small num den)
  let body := if conversion.isUpper then body.map Char.toUpper else body
  String.ofList (shape.pad zeros (shape.signOf negative) body)

end Shape

/-! ## Numbers in arguments -/

/-- How an argument reads as a number. -/
inductive Reads where
  | whole
  | part
  | not
  | tooLarge
  deriving DecidableEq, Repr

/-- Whether a character is blank in front of a number. -/
def isNumberBlank (c : Char) : Bool := c == ' ' || ('\x09' ≤ c && c ≤ '\x0d')

/-- The sign in front of a number, and the rest. -/
def signAndRest : List Char → Bool × List Char
  | '-' :: rest => (true, rest)
  | '+' :: rest => (false, rest)
  | text => (false, text)

/-- The natural number that a text begins with, in the base that it says itself, and the text behind
it; nothing if it begins with none. -/
def basedNumber (text : List Char) : Option (Nat × List Char) :=
  let from_ (base : Nat) (text : List Char) : Option (Nat × List Char) :=
    let (value, taken, rest) := leadingNumber base text.length 0 0 text
    if taken = 0 then none else some (value, rest)
  match text with
  | '0' :: x :: rest =>
    if x == 'x' || x == 'X' then (from_ 16 rest).orElse fun _ => some (0, x :: rest)
    else from_ 8 text
  | text => from_ 10 text

/-- The whole number that an argument begins with, and how it reads. -/
def wholeNumber (argument : String) : Int × Reads :=
  let (negative, text) := signAndRest (argument.toList.dropWhile isNumberBlank)
  match basedNumber text with
  | none => (0, if argument.isEmpty then .whole else .not)
  | some (n, rest) => (if negative then -n else n, if rest.isEmpty then .whole else .part)

/-- The number with a fraction that an argument begins with, and how it reads. -/
def floatingNumber (argument : String) : Binary64 × Reads :=
  let (negative, text) := signAndRest (argument.toList.dropWhile isNumberBlank)
  let whole := text.takeWhile Char.isDigit
  let rest := text.dropWhile Char.isDigit
  let (fraction, rest) := match rest with
    | '.' :: more => (more.takeWhile Char.isDigit, more.dropWhile Char.isDigit)
    | rest => ([], rest)
  let spelled := whole ++ fraction
  if spelled.isEmpty then
    (Binary64.withSign false 0, if argument.isEmpty then .whole else .not)
  else
    let (power, rest) : Int × List Char := match rest with
      | e :: more =>
        let (down, digits) := signAndRest more
        let found := digits.takeWhile Char.isDigit
        if (e == 'e' || e == 'E') && !found.isEmpty then
          let n : Int := (String.ofList found).toNat?.getD 0
          (if down then -n else n, digits.dropWhile Char.isDigit)
        else (0, rest)
      | [] => (0, [])
    let digits := (String.ofList spelled).toNat?.getD 0
    (Binary64.ofDecimal negative digits (power - fraction.length),
      if rest.isEmpty then .whole else .part)

/-! ## Printing -/

/-- Where printing by a format stands: the arguments left, what was printed, the latest piece first,
and the code. -/
structure Formatting where
  arguments : List String
  printed : List Piece
  code : Nat

/-- A part of printing by a format, which may end all printing. -/
abbrev FormatStep := ExceptT Unit (StateM Formatting)

namespace FormatStep

def say (text : String) : FormatStep Unit :=
  modify fun state => { state with printed := .out text :: state.printed }

def complain (message : String) (code : Nat) : FormatStep Unit :=
  modify fun state => { state with printed := .err message :: state.printed, code := code }

/-- Takes the next argument, if there is one. -/
def take : FormatStep (Option String) :=
  modifyGet fun state => (state.arguments.head?, { state with arguments := state.arguments.drop 1 })

/-- Complains about an argument that does not read well as a number. -/
def judge (style : FormatStyle) (argument : String) : Reads → FormatStep Unit
  | .whole => return
  | .part => complain (style.notWhole argument) 1
  | .not => complain (style.notNumeric argument) 1
  | .tooLarge => complain (style.outOfRange argument) 1

/-- The character behind a quote at the start of an argument, by its number. -/
def quotedCharacter? (argument : String) : Option Nat :=
  match argument.toList with
  | '\'' :: c :: _ => some c.toNat
  | '"' :: c :: _ => some c.toNat
  | _ => none

def bounds (signed : Bool) : Int × Int :=
  if signed then (-(Nat.pow 2 63), Nat.pow 2 63 - 1) else (-(Nat.pow 2 64 - 1), Nat.pow 2 64 - 1)

/-- Takes the next argument as a whole number. -/
def takeWhole (style : FormatStyle) (signed : Bool) : FormatStep Int := do
  let some argument ← take | return 0
  if let some n := quotedCharacter? argument then return n
  if style.lonelyQuote && (argument == "'" || argument == "\"") then return 0
  let (n, reads) := wholeNumber argument
  let (low, high) := bounds signed
  if n < low || high < n then
    judge style argument .tooLarge
    return if signed then max low (min high n) else high
  judge style argument reads
  return if signed then n else n % Nat.pow 2 64

/-- Takes the next argument as a number with a fraction. -/
def takeFloating (style : FormatStyle) : FormatStep Binary64 := do
  let some argument ← take | return Binary64.withSign false 0
  if let some n := quotedCharacter? argument then return Binary64.ofDecimal false n 0
  let (x, reads) := floatingNumber argument
  judge style argument reads
  return x

/-- The number in front of a text, which a star takes from the arguments, and the text behind it. -/
def measure (style : FormatStyle) (text : List Char) : FormatStep (Int × List Char) := do
  match text with
  | '*' :: rest => return (← takeWhole style true, rest)
  | text =>
    let digits := text.takeWhile Char.isDigit
    return (((String.ofList digits).toNat?.getD 0 : Nat), text.dropWhile Char.isDigit)

/-- The shape that a directive begins with, and the text behind it. -/
def shapeOf (style : FormatStyle) (text : List Char) : FormatStep (Shape × List Char) := do
  let isFlag := "#-+ 0".toList.contains
  let flags := text.takeWhile isFlag
  let (width, rest) ← measure style (text.dropWhile isFlag)
  let flags := if width < 0 then '-' :: flags else flags
  let (precision, rest) ← match rest with
    | '.' :: rest => do
      let (n, rest) ← measure style rest
      pure (if n < 0 then none else some n.toNat, rest)
    | rest => pure (none, rest)
  return (⟨flags, width.natAbs, precision⟩, rest.dropWhile style.sizes.toList.contains)

/-- Prints by a conversion; `directive` is its text. -/
def convert (style : FormatStyle) (shape : Shape) (directive : String) (conversion : Char) :
    FormatStep Unit := do
  match conversion with
  | 's' => say (shape.text ((← take).getD ""))
  | 'c' => say (shape.text (String.ofList [((← take).bind (·.toList.head?)).getD '\x00']))
  | 'b' =>
    if !style.widensEscaped && (shape.width ≠ 0 || shape.precision.isSome) then
      refuse directive
    let (text, ends) := unescaped style.textRules ((← take).getD "")
    say (shape.text text)
    if ends then throw ()
  | 'd' => say (shape.decimal (← takeWhole style true))
  | 'i' => say (shape.decimal (← takeWhole style true))
  | 'u' => say (shape.based 10 false (← takeWhole style false).toNat)
  | 'o' => say (shape.based 8 false (← takeWhole style false).toNat)
  | 'x' => say (shape.based 16 false (← takeWhole style false).toNat)
  | 'X' => say (shape.based 16 true (← takeWhole style false).toNat)
  | conversion =>
    if "eEfFgG".toList.contains conversion then
      say (shape.floating conversion (← takeFloating style))
    else refuse directive
where
  /-- Refuses a directive, which ends all printing. -/
  refuse (directive : String) : FormatStep Unit := do
    complain (style.invalid directive) style.invalidCode
    throw ()

/-- Prints by a format once; `fuel` is at least its length. -/
def once (style : FormatStyle) : Nat → List Char → FormatStep Unit
  | fuel + 1, '\\' :: rest =>
    match escapeAt style.formatRules rest with
    | none => throw ()
    | some (chars, rest) => do
      say (String.ofList chars)
      once style fuel rest
  | fuel + 1, '%' :: '%' :: rest => do
    say "%"
    once style fuel rest
  | fuel + 1, '%' :: rest => do
    let (shape, after) ← shapeOf style rest
    match after with
    | [] =>
      let directive := String.ofList ('%' :: rest)
      complain (style.unfinished.getD (style.invalid directive)) style.invalidCode
      throw ()
    | conversion :: after =>
      let length := rest.length - after.length
      convert style shape (String.ofList ('%' :: rest.take length)) conversion
      once style fuel after
  | fuel + 1, c :: rest => do
    say (String.ofList (c :: rest.takeWhile isPlain))
    once style fuel (rest.dropWhile isPlain)
  | _, _ => return
where
  /-- Whether a character of a format stands for itself. -/
  isPlain (c : Char) : Bool := c != '%' && c != '\\'

/-- Prints by a format until there are no arguments left, or until it takes none; `fuel` is at least
their number. -/
def again (style : FormatStyle) (format : List Char) : Nat → FormatStep Unit
  | 0 => return
  | fuel + 1 => do
    let before := (← get).arguments.length
    once style (format.length + 1) format
    let after := (← get).arguments.length
    if after ≠ 0 && after < before then again style format fuel

end FormatStep

/-- What printing arguments by a format leaves. -/
def formatted (style : FormatStyle) (format : String) (arguments : List String) : Formatting :=
  let run := FormatStep.again style format.toList (arguments.length + 1)
  let (_, after) := run.run ⟨arguments, [], 0⟩
  { after with printed := after.printed.reverse }

namespace FormatStyle

/-- The style of scripts. -/
def script : FormatStyle where
  formatRules := .scriptFormat
  textRules := .scriptText
  sizes := ""
  widensEscaped := true
  lonelyQuote := true
  notNumeric argument := s!"{argument}: expected numeric value"
  notWhole argument := s!"{argument}: not completely converted"
  outOfRange argument := s!"{argument}: Numerical result out of range"
  invalid directive := s!"{directive}: invalid directive"
  unfinished := some "missing format character"
  invalidCode := 2

/-- The style of the program. -/
def program : FormatStyle where
  formatRules := .format
  textRules := .text
  sizes := "hlLjtz"
  widensEscaped := false
  lonelyQuote := false
  notNumeric argument := s!"{quotedName argument}: expected a numeric value"
  notWhole argument := s!"{quotedName argument}: value not completely converted"
  outOfRange argument := s!"{quotedName argument}: Numerical result out of range"
  invalid directive := s!"{directive}: invalid conversion specification"
  unfinished := none
  invalidCode := 1

end FormatStyle
end JavaStubs.Host

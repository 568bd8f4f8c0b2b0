import JavaStubs.Config.Toml.Basic
import JavaStubs.Text.Hexadecimal

/-!
The values of a TOML text that hold no others: texts in double or single quotes, on one line or on
several, numbers, and moments, which are taken as texts. Keys are read here as well, since their
parts may be quoted like texts.
-/
namespace JavaStubs.Toml

open Text (isLowerAscii isUpperAscii isDigitAscii)

/-! ## Texts -/

/-- The character whose number is given by a count of hexadecimal digits. -/
def hexChar (count : Nat) (text : List Char) : Except Fault (Taken Char) :=
  let digits := text.take count
  match digits.mapM Hexadecimal.value? with
  | none => fail .badHexadecimal text
  | some values =>
    let number := values.foldl (fun n d => 16 * n + d) 0
    if values.length < count then fail .badHexadecimal text
    else if number.isValidChar then .ok (Char.ofNat number, text.drop count)
    else fail .noCharacter (text.drop count)

/-- What a letter behind a backslash stands for. -/
def escape? : Char → Option Char
  | 'b' => some '\x08'
  | 't' => some '\t'
  | 'n' => some '\n'
  | 'f' => some '\x0c'
  | 'r' => some '\r'
  | '"' => some '"'
  | '\\' => some '\\'
  | _ => none

/-- The text behind a backslash that joins two lines, if one stands in front of it: nothing but
blanks may follow on the line, and all blanks at the start of the next lines are left out. -/
def joinedLine? : List Char → Option (Except Fault (List Char))
  | '\n' :: rest => some (.ok (rest.dropWhile isSpread))
  | c :: rest =>
    if isGap c then
      match skipGap rest with
      | [] => some (.ok [])
      | '\n' :: rest => some (.ok (rest.dropWhile isSpread))
      | rest => some (fail .strayBackslash rest)
    else none
  | [] => none

/-- An escape, behind its backslash. -/
def escape (text : List Char) : Except Fault (Taken Char) :=
  match text with
  | 'u' :: rest => hexChar 4 rest
  | 'U' :: rest => hexChar 8 rest
  | letter :: rest =>
    match escape? letter with
    | some c => .ok (c, rest)
    | none => fail .strayBackslash rest
  | [] => fail .strayBackslash []

/-- A text up to its closing double quote, or to three of them if it may have several lines;
`fuel` is at least the length of what is left. -/
def basicText (several : Bool) (fuel : Nat) (done : List Char) (text : List Char) :
    Except Fault (Taken (List Char)) :=
  match fuel, text with
  | fuel + 1, '\\' :: rest =>
    match if several then joinedLine? rest else none with
    | some (.ok rest) => basicText several fuel done rest
    | some (.error fault) => .error fault
    | none => do
      let (c, rest) ← escape rest
      basicText several fuel (c :: done) rest
  | fuel + 1, '"' :: rest =>
    if !several then .ok (done.reverse, rest)
    else match rest with
      | '"' :: '"' :: rest => .ok (done.reverse, rest)
      | rest => basicText several fuel ('"' :: done) rest
  | fuel + 1, c :: rest =>
    if if several then isInnerControl c else isControl c then fail (.illegalCharacter c) (c :: rest)
    else basicText several fuel (c :: done) rest
  | _, _ => fail .unterminatedText []

/-- A text up to its closing single quote. -/
def literalText (text : List Char) : Except Fault (Taken (List Char)) :=
  let body := text.takeWhile (· != '\'')
  match text.dropWhile (· != '\'') with
  | [] => fail (.lacks "'") []
  | mark :: rest => do
    checkPiece isControl body (mark :: rest)
    return (body, rest)

/-- A text cut before the first three single quotes in it, if it has them. -/
def cutAtQuotes : List Char → Option (List Char × List Char)
  | '\'' :: '\'' :: '\'' :: rest => some ([], '\'' :: '\'' :: '\'' :: rest)
  | c :: rest => (cutAtQuotes rest).map fun (body, rest) => (c :: body, rest)
  | [] => none

/-- A text of several lines up to its closing three single quotes. -/
def longLiteralText (text : List Char) : Except Fault (Taken (List Char)) :=
  match cutAtQuotes text with
  | none => fail (.lacks "'''") []
  | some (body, rest) => do
    checkPiece isInnerControl body rest
    return (body, rest.drop 3)

/-- A text with the quotes that follow the three closing ones, at most two. -/
def withQuotes (quote : Char) (body text : List Char) : String × List Char :=
  let quotes := (text.take 2).takeWhile (· == quote)
  (String.ofList (body ++ quotes), text.drop quotes.length)

/-- A text without the line feed at its start. -/
def pastLineFeed : List Char → List Char
  | '\n' :: rest => rest
  | text => text

/-- A text in quotes of one kind, if one begins here. -/
def text? : List Char → Option (Except Fault (Taken String))
  | '"' :: '"' :: '"' :: rest => some do
    let rest := pastLineFeed rest
    let (body, rest) ← basicText true (rest.length + 1) [] rest
    return withQuotes '"' body rest
  | '\'' :: '\'' :: '\'' :: rest => some do
    let (body, rest) ← longLiteralText (pastLineFeed rest)
    return withQuotes '\'' body rest
  | '"' :: rest => some do
    let (body, rest) ← basicText false (rest.length + 1) [] rest
    return (String.ofList body, rest)
  | '\'' :: rest => some do
    let (body, rest) ← literalText rest
    return (String.ofList body, rest)
  | _ => none

/-! ## Keys -/

/-- A character of a key without quotes. -/
def isKeyChar (c : Char) : Bool :=
  isLowerAscii c || isUpperAscii c || isDigitAscii c || c == '_' || c == '-'

/-- A character that a key may begin with. -/
def isKeyStart (c : Char) : Bool := isKeyChar c || c == '"' || c == '\''

/-- One part of a key. -/
def keyPart (text : List Char) : Except Fault (Taken String) :=
  match text with
  | '"' :: rest => do
    let (body, rest) ← basicText false (rest.length + 1) [] rest
    return (String.ofList body, rest)
  | '\'' :: rest => do
    let (body, rest) ← literalText rest
    return (String.ofList body, rest)
  | text =>
    let part := text.takeWhile isKeyChar
    if part.isEmpty then fail .noKeyPart text
    else .ok (String.ofList part, text.dropWhile isKeyChar)

/-- A key of several parts with dots between, and what follows behind blanks; `fuel` is more than
the length of the text. -/
def key : Nat → List Char → Except Fault (Taken Key)
  | 0, text => fail .noKeyPart text
  | fuel + 1, text => do
    let (part, rest) ← keyPart text
    match skipGap rest with
    | '.' :: rest =>
      let (parts, rest) ← key fuel (skipGap rest)
      return (part :: parts, rest)
    | rest => return ([part], rest)

/-! ## Numbers -/

/-- Digits of a base, with single underscores between them, and what follows; there must be a
digit. -/
def digits? (isDigit : Char → Bool) : List Char → Option (List Char × List Char)
  | [] => none
  | c :: rest =>
    if isDigit c then
      match rest with
      | '_' :: next :: more =>
        if isDigit next then
          match digits? isDigit (next :: more) with
          | some (digits, rest) => some (c :: digits, rest)
          | none => some ([c], rest)
        else some ([c], rest)
      | rest =>
        match digits? isDigit rest with
        | some (digits, rest) => some (c :: digits, rest)
        | none => some ([c], rest)
    else none

/-- The number that digits of a base spell. -/
def numberIn (base : Nat) (digits : List Char) : Nat :=
  digits.foldl (fun n c => base * n + (Hexadecimal.value? c).getD 0) 0

/-- A whole number in a base other than ten, behind the mark of the base. -/
def based? (base : Nat) (text : List Char) : Option (Value × List Char) :=
  (digits? (fun c => (Hexadecimal.value? c).any (· < base)) text).map fun (digits, rest) =>
    (.integer (numberIn base digits), rest)

/-- A sign at the start of a text: whether it is a minus, and what follows. -/
def sign : List Char → Bool × List Char
  | '-' :: rest => (true, rest)
  | '+' :: rest => (false, rest)
  | text => (false, text)

/-- The digits before the point of a number: zero alone, or digits of which the first is not
zero. -/
def whole? : List Char → Option (List Char × List Char)
  | '0' :: rest => some (['0'], rest)
  | text => digits? isDigitAscii text

/-- The digits behind the point of a number, if there is a point with a digit behind it. -/
def fraction? : List Char → Option (List Char × List Char)
  | '.' :: rest => digits? isDigitAscii rest
  | _ => none

/-- The power of ten of a number, if it has one. -/
def exponent? : List Char → Option (Int × List Char)
  | c :: rest =>
    if c == 'e' || c == 'E' then
      let (negative, rest) := sign rest
      (digits? isDigitAscii rest).map fun (digits, rest) =>
        let power : Int := numberIn 10 digits
        (if negative then -power else power, rest)
    else none
  | [] => none

/-- How many digits a whole number may have. -/
def digitLimit : Nat := 4300

/-- A number in base ten, if one begins here: whole unless it has a fraction or an exponent. -/
def decimal? (text : List Char) : Option (Except Fault (Taken Value)) := do
  let (negative, unsigned) := sign text
  let (whole, rest) ← whole? unsigned
  let (fraction, afterFraction) := (fraction? rest).getD ([], rest)
  match fraction, exponent? afterFraction with
  | [], none =>
    if digitLimit < whole.length then return fail (.tooManyDigits whole.length) text
    let n : Int := numberIn 10 whole
    return .ok (.integer (if negative then -n else n), rest)
  | fraction, exponent =>
    let (power, rest) := exponent.getD (0, afterFraction)
    let digits := numberIn 10 (whole ++ fraction)
    return .ok (.real (Binary64.ofDecimal negative digits (power - fraction.length)), rest)

/-- The numbers that have names. -/
def namedNumbers : List (List Char × Binary64) :=
  ["", "+", "-"].flatMap fun mark =>
    [((mark ++ "inf").toList, Binary64.infinity (mark == "-")),
     ((mark ++ "nan").toList, Binary64.notANumber)]

/-- A number, if one begins here. A mark of a base that no digit follows is not taken. -/
def number? (text : List Char) : Option (Except Fault (Taken Value)) :=
  let based := match text with
    | '0' :: 'x' :: rest => based? 16 rest
    | '0' :: 'o' :: rest => based? 8 rest
    | '0' :: 'b' :: rest => based? 2 rest
    | _ => none
  match based with
  | some found => some (.ok found)
  | none => (decimal? text).orElse fun _ =>
    (namedNumbers.find? fun (name, _) => name.isPrefixOf text).map fun (name, x) =>
      .ok (.real x, text.drop name.length)

/-! ## Moments -/

/-- A number of exactly some decimal digits, within bounds. -/
def fixed? (count low high : Nat) (text : List Char) : Option (Nat × List Char) :=
  let digits := text.take count
  let n := numberIn 10 digits
  if digits.length = count && digits.all isDigitAscii && low ≤ n && n ≤ high
  then some (n, text.drop count) else none

/-- What follows a character, if a text begins with it. -/
def past? (c : Char) : List Char → Option (List Char)
  | d :: rest => if c == d then some rest else none
  | [] => none

/-- A time of day: hours, minutes and seconds, with or without a fraction of a second, which is cut to
the microsecond. -/
def time? (text : List Char) : Option (DayTime × List Char) := do
  let (hour, rest) ← fixed? 2 0 23 text
  let (minute, rest) ← fixed? 2 0 59 (← past? ':' rest)
  let (second, rest) ← fixed? 2 0 59 (← past? ':' rest)
  match rest with
  | '.' :: more =>
    let digits := more.takeWhile isDigitAscii
    if digits.isEmpty then return (⟨hour, minute, second, 0⟩, rest)
    let micros := (digits ++ List.replicate 6 '0').take 6
    return (⟨hour, minute, second, numberIn 10 micros⟩, more.dropWhile isDigitAscii)
  | _ => return (⟨hour, minute, second, 0⟩, rest)

/-- The distance from universal time behind a time of day, in minutes, if it is told. -/
def distance (text : List Char) : Option Int × List Char :=
  let marked : Option (Int × List Char) := do
    let (negative, rest) := sign text
    guard (rest.length < text.length)
    let (hours, rest) ← fixed? 2 0 23 rest
    let (minutes, rest) ← fixed? 2 0 59 (← past? ':' rest)
    let ahead : Int := 60 * hours + minutes
    return (if negative then -ahead else ahead, rest)
  match text with
  | 'Z' :: rest => (some 0, rest)
  | 'z' :: rest => (some 0, rest)
  | text =>
    match marked with
    | some (ahead, rest) => (some ahead, rest)
    | none => (none, text)

/-- A day, with or without a time of day, if one begins here. -/
def day? (text : List Char) : Option (Except Fault (Taken Moment)) := do
  let (year, rest) ← fixed? 4 0 9999 text
  let (month, rest) ← fixed? 2 1 12 (← past? '-' rest)
  let (number, rest) ← fixed? 2 1 31 (← past? '-' rest)
  let day : Day := ⟨year, month, number⟩
  if !day.exists_ then return fail .noSuchTime text
  let timed : Option (Taken Moment) := do
    let mark ← rest.head?
    guard (mark == 'T' || mark == 't' || mark == ' ')
    let (time, rest) ← time? (rest.drop 1)
    let (ahead, rest) := distance rest
    return (.full day time ahead, rest)
  return .ok (timed.getD (.date day, rest))

/-- A day or a time of day, if one begins here. -/
def moment? (text : List Char) : Option (Except Fault (Taken Moment)) :=
  (day? text).orElse fun _ => (time? text).map fun (time, rest) => .ok (.clock time, rest)

/-! ## Any of them -/

/-- A value that holds no others. -/
def scalar (text : List Char) : Except Fault (Taken Value) :=
  match text? text with
  | some reading => reading.map fun (s, rest) => (.text s, rest)
  | none =>
    match text with
    | 't' :: 'r' :: 'u' :: 'e' :: rest => .ok (.boolean true, rest)
    | 'f' :: 'a' :: 'l' :: 's' :: 'e' :: rest => .ok (.boolean false, rest)
    | text =>
      match moment? text with
      | some reading => reading.map fun (found, rest) => (.moment found, rest)
      | none => (number? text).getD (fail .noValue text)

end JavaStubs.Toml

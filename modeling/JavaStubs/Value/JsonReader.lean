import JavaStubs.Text.UnicodeEscape
import JavaStubs.Value.Basic

/-!
Reading JSON. A text is cut into lexemes, each at its place (`lexemes`); a machine with a stack of
open lists and tables takes them one by one (`State.step`). A lexeme that cannot be completed is a
lexeme of its own, so the first fault reported is the first one that a reader from left to right
meets. Beyond the standard, the names `NaN`, `Infinity` and `-Infinity` are numbers.
-/
namespace JavaStubs.Json

/-- What is wrong with a text that is no JSON. -/
inductive Cause where
  | byteOrderMark
  | expectedValue
  | expectedName
  | expectedColon
  | expectedComma
  | extraData
  | unterminatedText
  | controlCharacter
  | badEscape
  | badUnicodeEscape
  /-- A whole number with more digits than the reader converts. -/
  | tooManyDigits (digits : Nat)
  /-- Lists and tables lie deeper in one another than they are followed; the innermost is a list or a
  table. -/
  | tooDeep (list : Bool)
  deriving DecidableEq, Repr

/-- Whether a cause is a bound of the reader, rather than something that is wrong at a place. -/
def Cause.isBound : Cause → Bool
  | .tooManyDigits _ => true
  | .tooDeep _ => true
  | _ => false

/-- A fault and the place in the text where it was met. -/
structure Fault where
  cause : Cause
  position : Nat
  deriving DecidableEq, Repr

/-- The wording of a cause. -/
def Cause.wording : Cause → String
  | .byteOrderMark => "Unexpected UTF-8 BOM (decode using utf-8-sig)"
  | .expectedValue => "Expecting value"
  | .expectedName => "Expecting property name enclosed in double quotes"
  | .expectedColon => "Expecting ':' delimiter"
  | .expectedComma => "Expecting ',' delimiter"
  | .extraData => "Extra data"
  | .unterminatedText => "Unterminated string starting at"
  | .controlCharacter => "Invalid control character at"
  | .badEscape => "Invalid \\escape"
  | .badUnicodeEscape => "Invalid \\uXXXX escape"
  | .tooManyDigits digits =>
    s!"Exceeds the limit (4300 digits) for integer string conversion: value has {digits} digits; " ++
      "use sys.set_int_max_str_digits() to increase the limit"
  | .tooDeep list =>
    "maximum recursion depth exceeded while decoding a JSON " ++
      (if list then "array" else "object") ++ " from a unicode string"

/-- The line and the column, from one, of a place in a text. -/
def lineColumn (text : List Char) (position : Nat) : Nat × Nat :=
  let before := text.take position
  (before.count '\n' + 1, (before.reverse.takeWhile (· != '\n')).length + 1)

/-- The wording of a fault in a text, with its line, column and place. -/
def Fault.message (fault : Fault) (text : List Char) : String :=
  if fault.cause.isBound then fault.cause.wording
  else
    let (line, column) := lineColumn text fault.position
    s!"{fault.cause.wording}: line {line} column {column} (char {fault.position})"

/-- A lexeme. A scalar is a name or a number; a text with a fault in it is broken; a character that
begins nothing is stray. -/
inductive Lexeme where
  | openTable | closeTable | openList | closeList | colon | comma
  | scalar (value : Value)
  | text (value : String)
  | broken (fault : Fault)
  | stray
  deriving Repr

/-- The four characters that JSON skips. -/
def isSpace (c : Char) : Bool := c == ' ' || c == '\t' || c == '\n' || c == '\r'

/-- The code unit that four hexadecimal digits spell. -/
def unit? (a b c d : Char) : Option Nat := do
  let a ← Hexadecimal.value? a
  let b ← Hexadecimal.value? b
  let c ← Hexadecimal.value? c
  let d ← Hexadecimal.value? d
  return ((a * 16 + b) * 16 + c) * 16 + d

/-- The character that a letter after a backslash stands for. -/
def shortEscape? : Char → Option Char
  | '"' => some '"'
  | '\\' => some '\\'
  | '/' => some '/'
  | 'b' => some '\x08'
  | 'f' => some '\x0c'
  | 'n' => some '\n'
  | 'r' => some '\r'
  | 't' => some '\t'
  | _ => none

/-- The character of a surrogate pair. -/
def ofPair (high low : Nat) : Char :=
  Char.ofNat (0x10000 + (high - 0xD800) * 0x400 + (low - 0xDC00))

/-- The second half of a surrogate pair at the head of a text: its code unit, if an escape stands
there and more of the text follows it. -/
def secondHalf? : List Char → Option (Option Nat)
  | '\\' :: 'u' :: a :: b :: c :: d :: _ :: _ => some (unit? a b c d)
  | _ => none

/-- The rest of a text lexeme that begins at `start`: from place `pos` on, with `done` read so far,
latest first. The answer holds the text and the number of characters up to its closing quote, or a
fault. A surrogate that is escaped alone is one of its code points. -/
def scanPoints (start : Nat) : List Char → Nat → List CodePoint → Except Fault (List CodePoint × Nat)
  | [], _, _ => .error ⟨.unterminatedText, start⟩
  | '"' :: _, pos, done => .ok (done.reverse, pos + 1)
  | ['\\'], _, _ => .error ⟨.unterminatedText, start⟩
  | '\\' :: 'u' :: a :: b :: c :: d :: next :: rest, pos, done =>
    match unit? a b c d with
    | none => .error ⟨.badUnicodeEscape, pos + 1⟩
    | some high =>
      if 0xD800 ≤ high && high < 0xDC00 then
        match secondHalf? (next :: rest) with
        | some none => .error ⟨.badUnicodeEscape, pos + 7⟩
        | some (some low) =>
          if 0xDC00 ≤ low && low < 0xE000 then
            match rest with
            | _ :: _ :: _ :: _ :: _ :: rest =>
              scanPoints start rest (pos + 12) (.char (ofPair high low) :: done)
            | _ => .error ⟨.unterminatedText, start⟩
          else scanPoints start (next :: rest) (pos + 6) (.ofUnit high :: done)
        | none => scanPoints start (next :: rest) (pos + 6) (.ofUnit high :: done)
      else scanPoints start (next :: rest) (pos + 6) (.ofUnit high :: done)
  | '\\' :: 'u' :: _, pos, _ => .error ⟨.badUnicodeEscape, pos + 1⟩
  | '\\' :: e :: rest, pos, done =>
    match shortEscape? e with
    | some c => scanPoints start rest (pos + 2) (.char c :: done)
    | none => .error ⟨.badEscape, pos⟩
  | c :: rest, pos, done =>
    if c.toNat < 32 then .error ⟨.controlCharacter, pos⟩
    else scanPoints start rest (pos + 1) (.char c :: done)

/-- A letter behind a backslash is read as what it stands for. -/
theorem scanPoints_short {start pos : Nat} {e c : Char} {rest : List Char} {done : List CodePoint}
    (other : e ≠ 'u') (short : shortEscape? e = some c) :
    scanPoints start ('\\' :: e :: rest) pos done = scanPoints start rest (pos + 2) (.char c :: done) := by
  rw [scanPoints]
  · simp only [short]
  · exact fun _ _ _ _ _ _ same _ => other same
  · exact fun same => other same

/-- A character that is neither a mark nor a control is read as itself. -/
theorem scanPoints_plain {start pos : Nat} {c : Char} {rest : List Char} {done : List CodePoint}
    (quote : c ≠ '"') (backslash : c ≠ '\\') (visible : 32 ≤ c.toNat) :
    scanPoints start (c :: rest) pos done = scanPoints start rest (pos + 1) (.char c :: done) := by
  rw [scanPoints]
  · rw [if_neg (by omega)]
  all_goals simp_all

/-- The text of code points that is quoted at the head of a text. -/
def quotedPoints? : List Char → Option (List CodePoint)
  | '"' :: rest => (scanPoints 0 rest 1 []).toOption.map Prod.fst
  | _ => none

def digitsValue (digits : List Char) : Nat :=
  digits.foldl (fun n c => n * 10 + (c.toNat - '0'.toNat)) 0

def isDigit (c : Char) : Bool := '0' ≤ c && c ≤ '9'

/-- The whole part of a number: a zero alone, or digits that do not begin with one. -/
def wholePart : List Char → List Char
  | '0' :: _ => ['0']
  | text => text.takeWhile isDigit

/-- The fraction at the head of a text: a point and at least one digit, else nothing. -/
def fractionPart : List Char → List Char
  | '.' :: rest => if (rest.takeWhile isDigit).isEmpty then [] else '.' :: rest.takeWhile isDigit
  | _ => []

/-- The sign of an exponent at the head of a text. -/
def signPart : List Char → List Char
  | '+' :: _ => ['+']
  | '-' :: _ => ['-']
  | _ => []

/-- The exponent at the head of a text, its sign and its digits, when there is a digit. -/
def exponentPart? : List Char → Option (List Char × List Char)
  | e :: rest =>
    if e == 'e' || e == 'E' then
      let sign := signPart rest
      let digits := (rest.drop sign.length).takeWhile isDigit
      if digits.isEmpty then none else some (sign, digits)
    else none
  | [] => none

/-- How many digits a whole number may have. -/
def digitLimit : Nat := 4300

/-- The number at the head of a text, if one begins there, and its length. It is whole unless it
has a fraction or an exponent. -/
def scanNumber (text : List Char) : Option (Lexeme × Nat) :=
  let sign := if text.head? == some '-' then 1 else 0
  let text := text.drop sign
  let whole := wholePart text
  if whole.isEmpty then none
  else
    let fraction := fractionPart (text.drop whole.length)
    let exponent? := exponentPart? (text.drop (whole.length + fraction.length))
    let negative := sign == 1
    match fraction.isEmpty, exponent? with
    | true, none =>
      if whole.length > digitLimit then
        some (.broken ⟨.tooManyDigits whole.length, 0⟩, sign + whole.length)
      else
        let n : Int := digitsValue whole
        some (.scalar (.integer (if negative then -n else n)), sign + whole.length)
    | _, _ =>
      let (expSign, expDigits) := exponent?.getD ([], [])
      let power : Int := digitsValue expDigits
      let power := if expSign == ['-'] then -power else power
      let digits := digitsValue (whole ++ fraction.drop 1)
      let shift : Int := (fraction.drop 1).length
      let size := sign + whole.length + fraction.length +
        (if exponent?.isSome then 1 + expSign.length + expDigits.length else 0)
      some (.scalar (.real (Binary64.ofDecimal negative digits (power - shift))), size)

/-- The names of values. -/
def nameValues : List (List Char × Value) :=
  [("null".toList, .null), ("true".toList, .boolean true), ("false".toList, .boolean false),
   ("NaN".toList, .real Binary64.notANumber), ("Infinity".toList, .real (Binary64.infinity false)),
   ("-Infinity".toList, .real (Binary64.infinity true))]

/-- The lexeme at the head of a text that begins at place `pos`, and how many characters it has;
at least one. -/
def scanLexeme (pos : Nat) (c : Char) (rest : List Char) : Lexeme × Nat :=
  match c with
  | '\x7b' => (.openTable, 1)
  | '\x7d' => (.closeTable, 1)
  | '[' => (.openList, 1)
  | ']' => (.closeList, 1)
  | ':' => (.colon, 1)
  | ',' => (.comma, 1)
  | '"' =>
    match scanPoints pos rest (pos + 1) [] with
    | .ok (text, stop) => (.text (CodePoint.string text), stop - pos)
    | .error fault => (.broken fault, 1)
  | _ =>
    match nameValues.find? fun (name, _) => name.isPrefixOf (c :: rest) with
    | some (name, value) => (.scalar value, name.length)
    | none => (scanNumber (c :: rest)).getD (.stray, 1)

/-- The lexemes of a text, each with its place; `pos` is the place of the text's head and `skip` the
number of characters that still belong to the lexeme before. -/
def lexemesFrom : Nat → Nat → List Char → List (Nat × Lexeme)
  | _, _, [] => []
  | pos, skip + 1, _ :: rest => lexemesFrom (pos + 1) skip rest
  | pos, 0, c :: rest =>
    if isSpace c then lexemesFrom (pos + 1) 0 rest
    else
      let (lexeme, size) := scanLexeme pos c rest
      (pos, lexeme) :: lexemesFrom (pos + 1) (size - 1) rest

/-- A blank between lexemes is passed over. -/
theorem lexemesFrom_blank {pos : Nat} {rest : List Char} :
    lexemesFrom pos 0 (' ' :: rest) = lexemesFrom (pos + 1) 0 rest := by
  rw [lexemesFrom, if_pos (by decide)]

/-- A list or a table that is still open: its items latest first, its fields, or its fields with
the name whose value is being read. -/
inductive Frame where
  | list (items : List Value)
  | table (fields : Fields)
  | field (fields : Fields) (name : String)
  deriving Repr

/-- How many lists and tables may lie in one another. -/
def depthLimit : Nat := 990

/-- What the reader takes next. -/
inductive Expectation where
  | value
  | valueOrEnd
  | name
  | nameOrEnd
  | colon (name : String)
  | separator
  | done (value : Value)
  deriving Repr

/-- The reader's state: what it takes next, and what is open, innermost first. -/
structure State where
  expect : Expectation
  stack : List Frame
  deriving Repr

namespace State

def start : State := ⟨.value, []⟩

/-- After a value that is complete. -/
def complete (value : Value) : List Frame → State
  | [] => ⟨.done value, []⟩
  | .list items :: stack => ⟨.separator, .list (value :: items) :: stack⟩
  | .field fields name :: stack => ⟨.separator, .table (Fields.put name value fields) :: stack⟩
  | .table fields :: stack => ⟨.separator, .table fields :: stack⟩

/-- After one more list or table is opened, unless there are too many around it. -/
def enter (stack : List Frame) (pos : Nat) (list : Bool) (inside : State) : Except Fault State :=
  if stack.length < depthLimit then .ok inside else .error ⟨.tooDeep list, pos⟩

/-- A lexeme where a value must begin. -/
def takeValue (stack : List Frame) (pos : Nat) : Lexeme → Except Fault State
  | .scalar value => .ok (complete value stack)
  | .text value => .ok (complete (.text value) stack)
  | .openList => enter stack pos true ⟨.valueOrEnd, .list [] :: stack⟩
  | .openTable => enter stack pos false ⟨.nameOrEnd, .table [] :: stack⟩
  | .broken fault => .error fault
  | _ => .error ⟨.expectedValue, pos⟩

/-- A lexeme where the name of a field must stand. -/
def takeName (stack : List Frame) (pos : Nat) : Lexeme → Except Fault State
  | .text name => .ok ⟨.colon name, stack⟩
  | .broken fault =>
    match fault.cause with
    | .tooManyDigits _ => .error ⟨.expectedName, pos⟩
    | _ => .error fault
  | _ => .error ⟨.expectedName, pos⟩

/-- The state after one more lexeme. -/
def step (state : State) (pos : Nat) (lexeme : Lexeme) : Except Fault State :=
  match state.expect, state.stack, lexeme with
  | .valueOrEnd, .list items :: stack, .closeList => .ok (complete (.list items.reverse) stack)
  | .value, stack, lexeme => takeValue stack pos lexeme
  | .valueOrEnd, stack, lexeme => takeValue stack pos lexeme
  | .nameOrEnd, .table fields :: stack, .closeTable => .ok (complete (.table fields) stack)
  | .name, stack, lexeme => takeName stack pos lexeme
  | .nameOrEnd, stack, lexeme => takeName stack pos lexeme
  | .colon name, .table fields :: stack, .colon => .ok ⟨.value, .field fields name :: stack⟩
  | .colon _, _, _ => .error ⟨.expectedColon, pos⟩
  | .separator, .list items :: stack, .comma => .ok ⟨.value, .list items :: stack⟩
  | .separator, .list items :: stack, .closeList => .ok (complete (.list items.reverse) stack)
  | .separator, .table fields :: stack, .comma => .ok ⟨.name, .table fields :: stack⟩
  | .separator, .table fields :: stack, .closeTable => .ok (complete (.table fields) stack)
  | .separator, _, _ => .error ⟨.expectedComma, pos⟩
  | .done _, _, _ => .error ⟨.extraData, pos⟩

/-- The state after a sequence of lexemes. -/
def run : State → List (Nat × Lexeme) → Except Fault State
  | state, [] => .ok state
  | state, (pos, lexeme) :: rest => do (← state.step pos lexeme).run rest

end State

/-- The value that a text spells, or its first fault. -/
def read (text : List Char) : Except Fault Value :=
  if text.head? == some '\uFEFF' then .error ⟨.byteOrderMark, 0⟩
  else do
    let state ← State.start.run (lexemesFrom 0 0 text)
    match state.expect with
    | .done value => .ok value
    | _ =>
      let end_ ← state.step text.length .stray
      match end_.expect with
      | .done value => .ok value
      | _ => .error ⟨.expectedValue, text.length⟩

end JavaStubs.Json

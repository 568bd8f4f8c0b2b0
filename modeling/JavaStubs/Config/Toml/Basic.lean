import JavaStubs.Value.Basic
import JavaStubs.Text.Quoted
import JavaStubs.Text.Words

/-!
What is common to all parts of a TOML text: the faults that one can have, each with its place, and
the gaps and comments between the parts. A reader takes characters from the start of a text and
tells what it read and what is left; the place of a fault is kept as the number of characters left
there, and `Fault.message` turns it into a line and a column.
-/
namespace JavaStubs.Toml

/-- A key: its parts, the outermost first. -/
abbrev Key := List String

/-- Why a text is malformed. -/
inductive Cause where
  /-- A line begins with no statement. -/
  | noStatement
  /-- Something follows a statement on its line. -/
  | noLineEnd
  /-- A mark that must follow somewhere does not. -/
  | lacks (mark : String)
  /-- A character that can stand neither in a comment nor in a literal text. -/
  | invalidCharacter (c : Char)
  /-- A character that can not stand in a text. -/
  | illegalCharacter (c : Char)
  | unterminatedText
  /-- A backslash that begins no escape. -/
  | strayBackslash
  | badHexadecimal
  /-- An escape for a number that is no character's. -/
  | noCharacter
  | noKeyPart
  | noEqualsSign
  | noTableEnd
  | noTablesEnd
  | declaredTwice (key : Key)
  | redefined (key : Key)
  /-- A key leads into an array or an inline table. -/
  | closed (key : Key)
  | overwritten
  | openArray
  | openInlineTable
  | repeatedKey (name : String)
  /-- A day or a time of day that does not exist. -/
  | noSuchTime
  | noValue
  /-- A whole number with more digits than are converted. -/
  | tooManyDigits (digits : Nat)
  /-- Arrays and inline tables lie deeper in one another than they are followed. -/
  | tooDeep
  deriving DecidableEq, Repr

/-- A key as messages show it. -/
def keyText (key : Key) : String :=
  match key with
  | [part] => "(" ++ Text.quoted part ++ ",)"
  | parts => "(" ++ Text.joined ", " (parts.map Text.quoted) ++ ")"

def shownChar (c : Char) : String := Text.quoted (String.ofList [c])

/-- The wording of a cause. -/
def Cause.wording : Cause → String
  | .noStatement => "Invalid statement"
  | .noLineEnd => "Expected newline or end of document after a statement"
  | .lacks mark => "Expected " ++ Text.quoted mark
  | .invalidCharacter c => "Found invalid character " ++ shownChar c
  | .illegalCharacter c => "Illegal character " ++ shownChar c
  | .unterminatedText => "Unterminated string"
  | .strayBackslash => "Unescaped '\\' in a string"
  | .badHexadecimal => "Invalid hex value"
  | .noCharacter => "Escaped character is not a Unicode scalar value"
  | .noKeyPart => "Invalid initial character for a key part"
  | .noEqualsSign => "Expected '=' after a key in a key/value pair"
  | .noTableEnd => "Expected ']' at the end of a table declaration"
  | .noTablesEnd => "Expected ']]' at the end of an array declaration"
  | .declaredTwice key => s!"Cannot declare {keyText key} twice"
  | .redefined key => "Cannot redefine namespace " ++ keyText key
  | .closed key => "Cannot mutate immutable namespace " ++ keyText key
  | .overwritten => "Cannot overwrite a value"
  | .openArray => "Unclosed array"
  | .openInlineTable => "Unclosed inline table"
  | .repeatedKey name => "Duplicate inline table key " ++ Text.quoted name
  | .noSuchTime => "Invalid date or datetime"
  | .noValue => "Invalid value"
  | .tooManyDigits digits =>
    s!"Exceeds the limit (4300 digits) for integer string conversion: value has {digits} digits; " ++
      "use sys.set_int_max_str_digits() to increase the limit"
  | .tooDeep => "maximum recursion depth exceeded"

/-- Whether a cause is a bound of the reader, rather than something that is wrong at a place. -/
def Cause.isBound : Cause → Bool
  | .tooManyDigits _ => true
  | .tooDeep => true
  | _ => false

/-- A fault, and how many characters of the text are left at its place. -/
structure Fault where
  cause : Cause
  left : Nat
  deriving DecidableEq, Repr

/-- The place in a text at which some number of characters is left, in words. -/
def placeText (text : List Char) (left : Nat) : String :=
  if left = 0 then "end of document"
  else
    let before := text.take (text.length - left)
    let line := before.count '\n' + 1
    let column := (before.reverse.takeWhile (· != '\n')).length + 1
    s!"line {line}, column {column}"

/-- The wording of a fault in a text. -/
def Fault.message (text : List Char) (fault : Fault) : String :=
  if fault.cause.isBound then fault.cause.wording
  else s!"{fault.cause.wording} (at {placeText text fault.left})"

/-- What was read and what is left. -/
abbrev Taken (α : Type) := α × List Char

/-- A fault at the start of what is left. -/
def fail {α : Type} (cause : Cause) (left : List Char) : Except Fault α :=
  .error ⟨cause, left.length⟩

/-! ## Gaps and comments -/

/-- A blank within a line. -/
def isGap (c : Char) : Bool := c == ' ' || c == '\t'

/-- A blank within a line or at its end. -/
def isSpread (c : Char) : Bool := isGap c || c == '\n'

/-- A control character that may stand neither in a comment nor in a text of one line. -/
def isControl (c : Char) : Bool := (c.toNat < 32 && c != '\t') || c.toNat == 127

/-- A control character that may not even stand in a text of several lines. -/
def isInnerControl (c : Char) : Bool := isControl c && c != '\n'

/-- The text behind the blanks at its start. -/
def skipGap (text : List Char) : List Char := text.dropWhile isGap

/-- A fault at the first character of a piece that `bad` holds of, when `after` is behind the
piece. -/
def checkPiece (bad : Char → Bool) (piece after : List Char) : Except Fault Unit :=
  match piece.dropWhile (!bad ·) with
  | [] => .ok ()
  | c :: rest => .error ⟨.invalidCharacter c, rest.length + 1 + after.length⟩

/-- The text behind a comment, if one begins it. -/
def skipComment : List Char → Except Fault (List Char)
  | '#' :: rest => do
    let after := rest.dropWhile (· != '\n')
    checkPiece isControl (rest.takeWhile (· != '\n')) after
    return after
  | text => .ok text

/-- The text behind blanks, line feeds and comments; `fuel` is at least its length. -/
def skipSpread : Nat → List Char → Except Fault (List Char)
  | 0, text => .ok text
  | fuel + 1, text =>
    match text with
    | '#' :: _ => do skipSpread fuel (← skipComment text)
    | c :: rest => if isSpread c then skipSpread fuel rest else .ok text
    | [] => .ok []

end JavaStubs.Toml

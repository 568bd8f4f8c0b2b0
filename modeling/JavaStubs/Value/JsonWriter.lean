import JavaStubs.Value.Basic
import JavaStubs.Text.UnicodeEscape

/-!
Values as JSON text on one line. Only ASCII is written: every other character, and the delete
control, goes out as the escapes of its code units. A blank follows each comma and colon.
`writeSorted` orders the fields of every table by name.
-/
namespace JavaStubs.Json

open UnicodeEscape (units escapeUnit)

/-- A character inside a JSON text. -/
def escapeChar (c : Char) : List Char :=
  if c == '"' || c == '\\' then ['\\', c]
  else if c == '\n' then ['\\', 'n']
  else if c == '\r' then ['\\', 'r']
  else if c == '\t' then ['\\', 't']
  else if c == '\x08' then ['\\', 'b']
  else if c == '\x0c' then ['\\', 'f']
  else if 32 ≤ c.toNat && c.toNat ≤ 126 then [c]
  else (units c).flatMap escapeUnit

/-- A code point inside a JSON text. -/
def escapePoint : CodePoint → List Char
  | .char c => escapeChar c
  | .surrogate place => escapeUnit (0xD800 + place)

/-- A text of code points in double quotes. -/
def writePoints (text : List CodePoint) : List Char := '"' :: (text.flatMap escapePoint ++ ['"'])

/-- A text in double quotes. -/
def writeText (text : String) : List Char :=
  '"' :: (text.toList.flatMap escapeChar ++ ['"'])

theorem flatMap_escapePoint (text : String) :
    (CodePoint.ofString text).flatMap escapePoint = text.toList.flatMap escapeChar := by
  simp [CodePoint.ofString, List.flatMap_map, escapePoint]

/-- A string is written as the text of its characters. -/
theorem writePoints_ofString (text : String) : writePoints (CodePoint.ofString text) = writeText text := by
  rw [writePoints, writeText, flatMap_escapePoint]

/-- A double: like its plain text, with names of their own for the values that are not finite. -/
def writeReal (x : Binary64) : List Char :=
  match x.reading with
  | .notANumber => "NaN".toList
  | .infinite negative => (if negative then "-Infinity" else "Infinity").toList
  | .finite .. => x.text.toList

/-- Pieces with a comma and a blank between neighbours. -/
def separated : List (List Char) → List Char
  | [] => []
  | [piece] => piece
  | piece :: next :: rest => piece ++ (',' :: ' ' :: separated (next :: rest))

mutual

/-- A value as JSON, the fields of each table in their order. -/
def write : Value → List Char
  | .null => "null".toList
  | .boolean true => "true".toList
  | .boolean false => "false".toList
  | .integer n => (toString n).toList
  | .real x => writeReal x
  | .text s => writeText s
  | .moment m => writeText m.text
  | .list items => '[' :: (separated (writeItems items) ++ [']'])
  | .table fields => '\x7b' :: (separated (writeFields fields) ++ ['\x7d'])

/-- The items of a list, each written. -/
def writeItems : List Value → List (List Char)
  | [] => []
  | item :: rest => write item :: writeItems rest

/-- The fields of a table, each written. -/
def writeFields : Fields → List (List Char)
  | [] => []
  | (name, value) :: rest => (writeText name ++ (':' :: ' ' :: write value)) :: writeFields rest

end

/-- Fields in the order of their names. -/
def sortFields (fields : Fields) : Fields :=
  fields.mergeSort fun a b => a.1 ≤ b.1

mutual

/-- A value with the fields of every table in the order of their names. -/
def sorted : Value → Value
  | .list items => .list (sortedItems items)
  | .table fields => .table (sortFields (sortedFields fields))
  | value => value

/-- The items of a list, each sorted within. -/
def sortedItems : List Value → List Value
  | [] => []
  | item :: rest => sorted item :: sortedItems rest

/-- The fields of a table, each value sorted within. -/
def sortedFields : Fields → Fields
  | [] => []
  | (name, value) :: rest => (name, sorted value) :: sortedFields rest

end

/-- A value as JSON, the fields of each table in the order of their names. -/
def writeSorted (value : Value) : String := String.ofList (write (sorted value))

end JavaStubs.Json

import JavaStubs.Value.Basic
import JavaStubs.Text.Quoted
import JavaStubs.Text.Words

/-!
How messages show a value: texts in quotes, lists in square brackets, tables in braces, and the
words `None`, `True` and `False`. `plain` differs from `shown` for a text, which it leaves as it is,
and for a moment, which it writes out.
-/
namespace JavaStubs.Value

open JavaStubs.Text (quoted joined)

mutual

/-- A value as a message shows it. -/
def shown : Value → String
  | .null => "None"
  | .boolean true => "True"
  | .boolean false => "False"
  | .integer n => toString n
  | .real x => x.text
  | .text s => quoted s
  | .moment m => m.shown
  | .list items => "[" ++ joined ", " (shownItems items) ++ "]"
  | .table fields => "\x7b" ++ joined ", " (shownFields fields) ++ "\x7d"

/-- The items of a list, each shown. -/
def shownItems : List Value → List String
  | [] => []
  | item :: rest => shown item :: shownItems rest

/-- The fields of a table, each shown. -/
def shownFields : Fields → List String
  | [] => []
  | (name, value) :: rest => (quoted name ++ ": " ++ shown value) :: shownFields rest

end

/-- The most decimal digits of a whole number that can be shown. -/
def digitLimit : Nat := 4300

mutual

/-- Whether a value can be shown: no whole number in it has too many digits. -/
def isShowable : Value → Bool
  | .integer n => n.natAbs < Nat.pow 10 digitLimit
  | .list items => areShowable items
  | .table fields => haveShowable fields
  | _ => true

/-- Whether all items can be shown. -/
def areShowable : List Value → Bool
  | [] => true
  | item :: rest => isShowable item && areShowable rest

/-- Whether the values of all fields can be shown. -/
def haveShowable : Fields → Bool
  | [] => true
  | (_, value) :: rest => isShowable value && haveShowable rest

end

/-- A value as a text: a text is itself. -/
def plain : Value → String
  | .text s => s
  | .moment m => m.text
  | value => value.shown

end JavaStubs.Value

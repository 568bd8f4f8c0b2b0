import JavaStubs.Number.Binary64
import JavaStubs.Value.Moment

/-!
Dynamic values: what a descriptor document, a configuration, a caller's override or a journal
event may hold. A table keeps its fields in the order in which their names first came
(`Fields.put`), because that is the order in which it is shown and written.
-/
namespace JavaStubs

/-- A value of a document. -/
inductive Value where
  | null
  | boolean (b : Bool)
  | integer (n : Int)
  | real (x : Binary64)
  | text (s : String)
  | moment (moment : Moment)
  | list (items : List Value)
  | table (fields : List (String × Value))
  deriving Repr, Inhabited

/-- Fields of a table, each name once. -/
abbrev Fields := List (String × Value)

namespace Fields

def get? (fields : Fields) (name : String) : Option Value := fields.lookup name

/-- Whether there is a field of a name. -/
def has (fields : Fields) (name : String) : Bool := (fields.lookup name).isSome

/-- The fields with one set: in its old place if there was one of that name, else at the end. -/
def put (name : String) (value : Value) : Fields → Fields
  | [] => [(name, value)]
  | (key, old) :: rest => if key == name then (key, value) :: rest else (key, old) :: put name value rest

/-- The fields with others set one after another. -/
def putAll (fields : Fields) (others : Fields) : Fields :=
  others.foldl (fun done (name, value) => put name value done) fields

/-- The names of the fields, in order. -/
def names (fields : Fields) : List String := fields.map Prod.fst

/-- Reading a field back after setting one. -/
theorem get?_put (name other : String) (value : Value) (fields : Fields) :
    (put name value fields).get? other = if other = name then some value else fields.get? other := by
  induction fields with
  | nil =>
    by_cases h : other = name
    · simp [put, get?, h]
    · have : (other == name) = false := by simp [h]
      simp [put, get?, List.lookup_cons, h, this]
  | cons entry rest ih =>
    obtain ⟨key, old⟩ := entry
    simp only [get?] at ih ⊢
    by_cases hk : key = name
    · subst hk
      by_cases h : other = key <;> simp [put, List.lookup_cons, h]
      have : (other == key) = false := by simp [h]
      simp [this]
    · have hne : (key == name) = false := by simp [hk]
      simp only [put, hne, Bool.false_eq_true, if_false, List.lookup_cons]
      by_cases h : other = key
      · subst h; simp [hk]
      · have : (other == key) = false := by simp [h]
        simp [this, ih]

end Fields

namespace Value

/-- The values that count as absent: null, false, zero, and an empty text, list or table. -/
def isVacant : Value → Bool
  | .null => true
  | .boolean b => !b
  | .integer n => n == 0
  | .real x => x.sameNumber ⟨0⟩
  | .text s => s.isEmpty
  | .moment _ => false
  | .list items => items.isEmpty
  | .table fields => fields.isEmpty

/-- The field of a table; nothing of any other value. -/
def field? (value : Value) (name : String) : Option Value :=
  match value with
  | .table fields => Fields.get? fields name
  | _ => none

/-- The text of a field, or a default when it is absent or no text. -/
def textField (value : Value) (name default : String) : String :=
  match value.field? name with
  | some (.text s) => s
  | _ => default

/-- The truth of a field, or a default when it is absent or no boolean. -/
def flagField (value : Value) (name : String) (default : Bool) : Bool :=
  match value.field? name with
  | some (.boolean b) => b
  | _ => default

/-- The items of a field, or none when it is absent or no list. -/
def itemsField (value : Value) (name : String) : List Value :=
  match value.field? name with
  | some (.list items) => items
  | _ => []

mutual

/-- Whether two values are the same one: numbers by their value, whole or not, while a boolean is
no number; lists item by item, tables field by field in any order. -/
def same : Value → Value → Bool
  | .null, .null => true
  | .boolean a, .boolean b => a == b
  | .integer a, .integer b => a == b
  | .integer a, .real x => x.toInt? == some a
  | .real x, .integer a => x.toInt? == some a
  | .real x, .real y => x.sameNumber y
  | .text a, .text b => a == b
  | .moment a, .moment b => a == b
  | .list as, .list bs => sameItems as bs
  | .table fs, .table gs => fs.length == gs.length && sameFields fs gs
  | _, _ => false

/-- Whether two lists have the same items. -/
def sameItems : List Value → List Value → Bool
  | [], [] => true
  | a :: as, b :: bs => same a b && sameItems as bs
  | _, _ => false

/-- Whether every field has its like among others. -/
def sameFields : Fields → Fields → Bool
  | [], _ => true
  | (name, value) :: rest, others =>
    (match Fields.get? others name with
      | some other => same value other
      | none => false) && sameFields rest others

end

mutual

/-- A value in which all texts, names included, are changed by a function. -/
def mapTexts (f : String → String) : Value → Value
  | .text s => .text (f s)
  | .list items => .list (mapItems f items)
  | .table fields => .table (mapFields f fields)
  | value => value

/-- Items in which all texts are changed by a function. -/
def mapItems (f : String → String) : List Value → List Value
  | [] => []
  | item :: rest => mapTexts f item :: mapItems f rest

/-- Fields in which all texts are changed by a function. -/
def mapFields (f : String → String) : Fields → Fields
  | [] => []
  | (name, value) :: rest => (f name, mapTexts f value) :: mapFields f rest

end

end Value
end JavaStubs

import JavaStubs.Value.JsonWriter

/-!
Fields that are given as pairs. `Value.items?` is what a value gives one by one, and
`Pairs.ofValue` reads the pairs of a table or of a sequence of pairs, each a name with a value. Such a
name may be a number, a boolean or null as well as a text.
-/
namespace JavaStubs

/-- What a value gives one by one: the items of a list, the names of a table, the characters of a
text. -/
def Value.items? : Value → Option (List Value)
  | .list items => some items
  | .table fields => some ((Fields.names fields).map Value.text)
  | .text s => some (s.toList.map fun c => .text (String.ofList [c]))
  | _ => none

/-- Values with their names, each name once. -/
abbrev Pairs := List (Value × Value)

namespace Pairs

/-- Why a value gives no pairs. -/
inductive Fault where
  /-- The value, or what should be a pair, gives nothing one by one. -/
  | noSequence
  /-- What should be a pair at a place has another length. -/
  | noPair (place length : Nat)
  /-- The first part of a pair cannot be a name. -/
  | noName
  deriving DecidableEq, Repr

/-- The wording of a fault. -/
def Fault.message : Fault → String
  | .noPair place length =>
    s!"dictionary update sequence element #{place} has length {length}; 2 is required"
  | _ => ""

/-- A value as a name writes it: a boolean counts as the number that it stands for. -/
def asNumber : Value → Value
  | .boolean b => .integer (if b then 1 else 0)
  | value => value

/-- Whether two names are the same one. -/
def sameName (a b : Value) : Bool := Value.same (asNumber a) (asNumber b)

def get? (pairs : Pairs) (name : Value) : Option Value :=
  (pairs.find? fun (other, _) => sameName other name).map Prod.snd

/-- The pairs with one set: in its old place, and under its old name, if there was one of that name,
else at the end. -/
def put (name value : Value) : Pairs → Pairs
  | [] => [(name, value)]
  | (other, old) :: rest =>
    if sameName other name then (other, value) :: rest else (other, old) :: put name value rest

/-- The text of a name; a list or a table is none. -/
def nameText? : Value → Option String
  | .null => some "null"
  | .boolean true => some "true"
  | .boolean false => some "false"
  | .integer n => some (toString n)
  | .real x => some (String.ofList (Json.writeReal x))
  | .text s => some s
  | .moment m => some m.text
  | .list _ => none
  | .table _ => none

/-- The name and the value that a pair at a place gives. -/
def ofPair (pair : Value) (place : Nat) : Except Fault (Value × Value) :=
  match pair.items? with
  | none => .error .noSequence
  | some [name, value] => if (nameText? name).isSome then .ok (name, value) else .error .noName
  | some parts => .error (.noPair place parts.length)

/-- The pairs that a value gives. -/
def ofValue : Value → Except Fault Pairs
  | .table fields => .ok (fields.map fun (name, value) => (.text name, value))
  | value =>
    match value.items? with
    | none => .error .noSequence
    | some pairs => pairs.zipIdx.foldlM (fun done (pair, place) => do
        let (name, value) ← ofPair pair place
        return put name value done) []

/-- Pairs as fields; of several names with one text the last counts. -/
def fields (pairs : Pairs) : Fields :=
  pairs.foldl (fun done (name, value) => Fields.put ((nameText? name).getD "") value done) []

end Pairs
end JavaStubs

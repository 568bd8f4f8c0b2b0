import JavaStubs.Records.Value
import Std.Data.HashMap

/-!
Tables of values. The order in which the keys of a table are told comes from how the table is laid out:
keys lie in slots by their hashes, and whole numbers that are used as keys lie in slots of their own until
keys are needed as texts. What was used last comes first in its slot.
-/
namespace JavaStubs.Records

/-- A key: a text, or a whole number that stands for its digits. -/
inductive Key where
  | text (text : String)
  | whole (n : Int)
  deriving DecidableEq, Repr

def Key.shown : Key → String
  | .text shown => shown
  | .whole n => toString n

/-- A table. -/
structure Table where
  values : Std.HashMap String Value
  /-- The slots of keys as texts. -/
  spelled : Array (List String)
  /-- The slots of keys as numbers. -/
  counted : Array (List Int)
  /-- Whether all keys lie in slots of texts. -/
  isSpelled : Bool

namespace Table

/-- The number of slots of a new table. -/
def firstSlots : Nat := 64

/-- The number of keys for a slot up to which a table is large enough. -/
def slotLimit : Nat := 12

def empty : Table := ⟨∅, #[], #[], false⟩

instance : Inhabited Table := ⟨empty⟩

def size (table : Table) : Nat := table.values.size

def hashOf (text : String) : Nat :=
  (text.toList.foldl (fun (hash : UInt32) c => (hash ^^^ UInt32.ofNat c.toNat) * 16777619)
    2166136261).toNat

/-- The slot of a text among some number of slots. -/
def textSlot (slots : Nat) (text : String) : Nat := hashOf text % slots

def wholeSlot (slots : Nat) (n : Int) : Nat := (n % slots).toNat

/-- Slots with a key put first in one of them. -/
def withFirst {α : Type} [BEq α] (slots : Array (List α)) (slot : Nat) (key : α) : Array (List α) :=
  slots.modify slot fun keys =>
    match keys with
    | [] => [key]
    | first :: rest => if first == key then keys else key :: first :: rest.filter (· != key)

def prepared (table : Table) : Table :=
  if table.spelled.isEmpty then
    { table with
      spelled := Array.replicate firstSlots []
      counted := Array.replicate firstSlots [] }
  else table

/-- Slots with as many behind them, and what then belongs there moved. -/
def doubled {α : Type} (slots : Array (List α)) (slotOf : Nat → α → Nat) : Array (List α) :=
  let count := 2 * slots.size
  let part (keeps : Bool) : Array (List α) := slots.mapIdx fun place keys =>
    keys.filter fun key => (slotOf count key == place) == keeps
  part true ++ part false

/-- The table with room for one more key. -/
def grown (table : Table) : Table :=
  if slotLimit * table.spelled.size < table.size + 1 then
    { table with
      spelled := doubled table.spelled textSlot
      counted := doubled table.counted wholeSlot }
  else table

/-- The table with all keys in slots of texts. -/
def spelledOut (table : Table) : Table :=
  if table.isSpelled then table
  else
    let keys := table.counted.toList.flatten
    { table with
      isSpelled := true
      spelled := keys.foldl (fun slots n =>
        let shown := toString n
        slots.modify (textSlot slots.size shown) (shown :: ·)) table.spelled }

/-- The table after a text was looked up, which is a key from then on if it is to be. -/
def lookText (table : Table) (creates : Bool) (key : String) : Table :=
  let table := table.spelledOut
  let isKnown := table.values.contains key
  if !isKnown && !creates then table
  else
    let table := if isKnown then table else table.grown
    { table with
      spelled := withFirst table.spelled (textSlot table.spelled.size key) key
      values := if isKnown then table.values else table.values.insert key .unset }

/-- The table after a whole number was looked up. -/
def lookWhole (table : Table) (creates : Bool) (n : Int) : Table :=
  let key := toString n
  let isKnown := table.values.contains key
  if !isKnown && !creates then table
  else
    let isCounted := (table.counted.getD (wholeSlot table.counted.size n) []).contains n
    let table :=
      if isCounted then table
      else if table.isSpelled then table.lookText creates key
      else
        let table := table.grown
        { table with values := table.values.insert key .unset }
    { table with counted := withFirst table.counted (wholeSlot table.counted.size n) n }

/-- The table after a key was looked up, which belongs to it from then on if it is to. -/
def look (table : Table) (creates : Bool) (key : Key) : Table :=
  let table := table.prepared
  match key with
  | .text shown => table.lookText creates shown
  | .whole n => table.lookWhole creates n

def contains (table : Table) (key : Key) : Bool := table.values.contains key.shown

def valueOf (table : Table) (key : Key) : Value := (table.values[key.shown]?).getD .unset

/-- The table with a key's value set. -/
def put (table : Table) (key : Key) (value : Value) : Table :=
  let table := table.look true key
  { table with values := table.values.insert key.shown value }

/-- The table without a key. -/
def erase (table : Table) (key : Key) : Table :=
  let shown := key.shown
  if !table.values.contains shown then table
  else
    let drop {α : Type} [BEq α] (slots : Array (List α)) (slot : Nat) (key : α) : Array (List α) :=
      slots.modify slot (·.filter (· != key))
    let counted := match shown.toInt? with
      | some n => drop table.counted (wholeSlot table.counted.size n) n
      | none => table.counted
    { table with
      values := table.values.erase shown
      spelled := drop table.spelled (textSlot table.spelled.size shown) shown
      counted }

/-- The keys in order, and the table after they were told. -/
def keys (table : Table) : List String × Table :=
  let table := table.prepared.spelledOut
  (table.spelled.toList.flatten, table)

/-- The table of values that are counted from one. -/
def ofList (values : List Value) : Table :=
  (values.zipIdx 1).foldl (fun table (value, place) => table.put (.whole place) value) empty

end Table
end JavaStubs.Records

import JavaStubs.Host.Inputs
import JavaStubs.Records.Layout
import JavaStubs.Records.Pattern
import JavaStubs.Records.Table

/-!
The state of a script that works on records: its variables, the record with its fields, and its inputs and
outputs. The fields of a record are found when they are first needed, by what stood between fields when it
was read, and a record is put together from changed fields when it is next needed.
-/
namespace JavaStubs.Records

open Host (Starter Regex Work Working)

/-- What a variable holds. -/
inductive Slot where
  | value (value : Value)
  /-- The table of a number. -/
  | table (number : Nat)
  /-- Nothing yet: it may become a value, or the table of a number that is set aside for it. -/
  | either (number : Nat)
  deriving Inhabited

/-- Something that is printed to besides the own output. -/
structure Output where
  name : String
  isCommand : Bool
  /-- What a command is given when it is run, the latest piece first. -/
  pending : List String := []

/-- Something that is read from besides the input. -/
structure Source where
  name : String
  isCommand : Bool
  rest : List Char
  /-- The code that a command ended with. -/
  code : Int := 0

/-- Where the reading of the input stands. -/
structure Input where
  /-- The number of the next argument. -/
  place : Nat := 1
  /-- What is left of the present file. -/
  rest : Option (List Char) := none
  hasFile : Bool := false

/-- The state of a script. -/
structure Machine where
  start : Starter
  functions : Std.HashMap String Function := ∅
  shared : Std.HashMap String Slot := ∅
  /-- The variables of the present call. -/
  own : Array Slot := #[]
  tables : Array Table := #[]
  record : String := ""
  fields : Option (Array Value) := none
  /-- What stands between the fields of the record. -/
  separator : String := " "
  /-- Whether the record has to be put together. -/
  isStale : Bool := false
  regexes : Std.HashMap String Regex := ∅
  /-- The places of the rules whose range of records was begun. -/
  active : List Nat := []
  /-- What is printed but not passed on, the latest piece first. -/
  buffer : List String := []
  outputs : List Output := []
  sources : List Source := []
  input : Input := {}
  code : Int := 0
  seed : Binary64 := Binary64.zero
  random : Nat := 1

/-- Why a part of a script does not go on. -/
inductive Stop where
  | next
  | nextFile
  | exit
  | return_ (value : Value)
  | break_
  | continue_
  | fault (message : String)
  /-- There were too many steps inside of others. -/
  | tooDeep

/-- A part of a script's run. -/
abbrev Act := ExceptT Stop (StateT Machine Work)

namespace Act

/-- The state of the program that runs the script. -/
def working : Act Working := liftM (m := Work) get

/-- Changes the state of the program that runs the script. -/
def modifyWorking (change : Working → Working) : Act Unit := liftM (m := Work) (modify change)

/-! ## Variables -/

def slotOf : Variable → Act Slot
  | .shared name => return ((← get).shared[name]?).getD (.value .unset)
  | .own place => return ((← get).own[place]?).getD (.value .unset)

def setSlot (variable_ : Variable) (slot : Slot) : Act Unit :=
  modify fun machine =>
    match variable_ with
    | .shared name => { machine with shared := machine.shared.insert name slot }
    | .own place => { machine with own := machine.own.setIfInBounds place slot }

/-- The value of a shared variable that is no count of fields. -/
def sharedValue (name : String) : Act Value := do
  match ← slotOf (.shared name) with
  | .value value => return value
  | _ => return .unset

/-- The text of a shared variable, as it is where numbers are shown as texts. -/
def sharedText (name : String) : Act String := do
  match ← sharedValue name with
  | .number x => return numberText "%.6g" x
  | .text shown => return shown
  | .input shown => return shown
  | .unset => return ""

/-- Sets the value of a shared variable. -/
def setShared (name : String) (value : Value) : Act Unit := setSlot (.shared name) (.value value)

def shownNumber (x : Binary64) : Act String := do
  match wholeText? x with
  | some digits => return digits
  | none => return numberText (← sharedText "CONVFMT") x

def textOf : Value → Act String
  | .unset => return ""
  | .number x => shownNumber x
  | .text shown => return shown
  | .input shown => return shown

/-- Ends because of a fault, and tells where the input stands. -/
def refuse {α : Type} (message : String) : Act α := do
  let file ← sharedText "FILENAME"
  let inFile ← sharedText "FNR"
  let number ← sharedText "NR"
  throw (.fault s!"run time error: {message}\n\tFILENAME=\"{file}\" FNR={inFile} NR={number}")

/-! ## Tables -/

/-- Adds a table, and tells its number. -/
def newTable (table : Table) : Act Nat :=
  modifyGet fun machine => (machine.tables.size, { machine with tables := machine.tables.push table })

/-- The number of a variable's table. -/
def tableOf (variable_ : Variable) : Act Nat := do
  match ← slotOf variable_ with
  | .table number => return number
  | .either number => do
    setSlot variable_ (.table number)
    return number
  | .value .unset => do
    let number ← newTable .empty
    setSlot variable_ (.table number)
    return number
  | .value _ => refuse "type error in arg(1) in call"

def table (number : Nat) : Act Table := return (← get).tables.getD number .empty

def setTable (number : Nat) (table : Table) : Act Unit :=
  modify fun machine => { machine with tables := machine.tables.setIfInBounds number table }

def keyOf (value : Value) : Act Key := do
  match value with
  | .number x =>
    match x.toInt? with
    | some n => if -2147483648 ≤ n && n ≤ 2147483647 then return .whole n else return .text (← textOf value)
    | none => return .text (← textOf value)
  | value => return .text (← textOf value)

/-! ## Patterns -/

/-- The expression of a pattern. -/
def regexOf (pattern : String) : Act Regex := do
  match (← get).regexes[pattern]? with
  | some regex => return regex
  | none =>
    match Pattern.read pattern with
    | .error fault => throw (.fault s!"line 1: {fault.message pattern}")
    | .ok regex =>
      modify fun machine => { machine with regexes := machine.regexes.insert pattern regex }
      return regex

def separatorOf (text : String) : Act Separator := do
  match text.toList with
  | [' '] => return .blanks
  | [] => return .nothing
  | [c] => return .single c
  | _ => return .regex (← regexOf text)

def recordEnd : Act RecordEnd := do
  let text ← sharedText "RS"
  match text.toList with
  | [] => return .emptyLines
  | [c] => return .single c
  | _ => return .regex (← regexOf text)

/-! ## The record -/

def setRecord (text : String) : Act Unit := do
  let separator ← sharedText "FS"
  modify fun machine => { machine with record := text, fields := none, separator, isStale := false }

/-- The fields of the record. -/
def fields : Act (Array Value) := do
  let machine ← get
  match machine.fields with
  | some fields => return fields
  | none =>
    let separator ← separatorOf machine.separator
    let fields := ((separator.parts machine.record).map Value.input).toArray
    modify fun machine => { machine with fields := some fields }
    return fields

def setFields (fields : Array Value) : Act Unit :=
  modify fun machine => { machine with fields := some fields, isStale := true }

/-- The record, put together if its fields were changed. -/
def record : Act String := do
  let machine ← get
  if !machine.isStale then return machine.record
  let texts ← (machine.fields.getD #[]).toList.mapM textOf
  let text := Text.joined (← sharedText "OFS") texts
  modify fun machine => { machine with record := text, isStale := false }
  return text

/-- The most fields that there may be. -/
def mostFields : Int := 2147483647

def fieldPlace (value : Value) : Act Nat := do
  let n := wholeOf value.toNumber
  if n < 0 then refuse s!"negative field index ${n}"
  if mostFields < n then refuse s!"field index {n} exceeds maximum"
  return n.toNat

/-- The value of a field; that of number zero is the record. -/
def field (place : Nat) : Act Value := do
  match place with
  | 0 => return .input (← record)
  | place + 1 => return ((← fields)[place]?).getD .unset

def setField (place : Nat) (value : Value) : Act Unit := do
  match place with
  | 0 => setRecord (← textOf value)
  | place + 1 =>
    let fields ← fields
    let fields := fields ++ Array.replicate (place + 1 - fields.size) (.text "")
    setFields (fields.setIfInBounds place value)

def setFieldCount (count : Nat) : Act Unit := do
  let fields ← fields
  setFields ((fields ++ Array.replicate (count - fields.size) (Value.text "")).take count)

def valueOf (variable_ : Variable) : Act Value := do
  if variable_ = .shared "NF" then return .ofNat (← fields).size
  match ← slotOf variable_ with
  | .value value => return value
  | .table _ => refuse "type error in arg(1) in call"
  | .either _ => return .unset

def setVariable (variable_ : Variable) (value : Value) : Act Unit := do
  if variable_ = .shared "NF" then setFieldCount (← fieldPlace value)
  else
    if let .table _ := ← slotOf variable_ then refuse "type error in arg(1) in call"
    setSlot variable_ (.value value)

end Act
end JavaStubs.Records

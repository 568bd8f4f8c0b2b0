import JavaStubs.World

/-!
Journals: events, a line each, in files that are filed by day and numbered. An event goes to the
file that the journal wrote to last as long as that is one of the day and has room, and else to
the first file of the day that has. Reading a journal goes through the days and their files in
the order of their names.
-/
namespace JavaStubs

/-- A journal: its directory, and the size from which a file has no more room. -/
structure Journal where
  directory : Path
  maxBytes : Int
  deriving DecidableEq, Repr

namespace Journal

/-- The size of files unless another is asked for. -/
def defaultMaxBytes : Int := 10 * 1024 * 1024

/-- A journal in a directory; a size of zero is as good as none. -/
def make (directory : Path) (maxBytes : Option Int) : Journal :=
  match maxBytes with
  | none => ⟨directory, defaultMaxBytes⟩
  | some 0 => ⟨directory, defaultMaxBytes⟩
  | some size => ⟨directory, size⟩

/-! ## Writing -/

/-- The name of the file with a number. -/
def fileName (number : Nat) : String := "implementor_" ++ inDigits 2 number ++ ".jsonl"

/-- Whether a file has room for another line; a file that is not there has. -/
def hasRoom (journal : Journal) (path : Path) : FileJob Bool := do
  match ← Disk.probe path with
  | none => return true
  | some (_, entry) => return decide ((Disk.size entry : Int) < journal.maxBytes)

/-- The first file of a day with room, from a number on; of so many files one is not there. -/
def firstWithRoom (journal : Journal) (day : Path) : Nat → Nat → FileJob Path
  | 0, number => return day.child (fileName number)
  | files + 1, number => do
    let path := day.child (fileName number)
    if ← journal.hasRoom path then return path
    else firstWithRoom journal day files (number + 1)

/-- The file that an event of a day goes to, when `current` was written to last. -/
def target (journal : Journal) (current : Option Path) (day : Path) : FileJob Path := do
  Disk.makeDirectories day
  match current with
  | some path =>
    if path.parent == day then
      if ← journal.hasRoom path then return path
    firstWithRoom journal day (← get).tree.entries.length 0
  | none => firstWithRoom journal day (← get).tree.entries.length 0

/-- Adds an event to a journal, and tells the file that it went to. -/
def append (journal : Journal) (event : Value) : Job Path := do
  let fields ← Job.ofExcept ((Event.check event).mapError .event)
  let world ← get
  let day := journal.directory.child world.now.dayName
  let path ← Job.onDisk (journal.target world.journalFile day)
  modify fun world => { world with journalFile := some path }
  Job.onDisk (Disk.append path (Event.line world.now fields).toUTF8)
  return path

/-- Runs a job with a journal that has not yet written to any file. -/
def apart {α : Type} (job : Job α) : Job α := do
  let before := (← get).journalFile
  modify fun world => { world with journalFile := none }
  let result ← Job.attempt job
  modify fun world => { world with journalFile := before }
  Job.ofExcept result

/-! ## Reading -/

/-- Whether a name is that of a journal file. -/
def isFileName (name : String) : Bool :=
  let start := "implementor_"
  let suffix := ".jsonl"
  name.startsWith start && name.endsWith suffix && start.length + suffix.length ≤ name.length

/-- The names in a directory, in order. -/
def sortedNames (location : Location) : FileJob (List String) := do
  let disk ← get
  return if disk.grants .read location then (disk.tree.children location).mergeSort fun a b => a ≤ b
    else []

/-- The files of a journal, in the order of their days and names. -/
def files (journal : Journal) : FileJob (List Path) := do
  match ← Disk.probe journal.directory with
  | some (location, .directory) =>
    let days ← sortedNames location
    let found ← days.mapM fun day => do
      let path := journal.directory.child day
      match (← get).find .look path with
      | .ok (.entry location .directory) =>
        return ((← sortedNames location).filter isFileName).map path.child
      | _ => return []
    return found.flatten
  | _ => return []

/-- The values that lines spell, up to the first one that spells none. Blank lines are passed
over. -/
def valuesOf : List (List Char) → List Value × Option Fault
  | [] => ([], none)
  | line :: rest =>
    if (Text.trim line).isEmpty then valuesOf rest
    else match Json.read line with
      | .error fault => ([], some (.notJson line fault))
      | .ok value =>
        let (values, fault) := valuesOf rest
        (value :: values, fault)

/-- The lines of a text in a file. -/
def linesOf (text : List Char) : List (List Char) :=
  Text.physicalLines (Text.uniformNewlines text)

/-- The lines of a text that are surely complete when more is to follow: they end in a line feed, or
in a carriage return that is not the last character. -/
def completeLines (text : List Char) : List (List Char) :=
  (linesOf (if text.getLast? == some '\r' then text.dropLast else text)).filter
    (·.getLast? == some '\n')

/-- The events in the bytes of a file, up to the first fault. Bytes that end inside a character
spoil only the line that they end in; any other byte that is no text spoils the file. -/
def eventsIn (bytes : ByteArray) : List Value × Option Fault :=
  match Utf8.decode bytes with
  | .ok text => valuesOf (linesOf text.toList)
  | .error fault =>
    match fault.cause with
    | .truncated =>
      let before := (Utf8.decode (bytes.extract 0 fault.start)).toOption.getD ""
      match valuesOf (completeLines before.toList) with
      | (values, some other) => (values, some other)
      | (values, none) => (values, some (.notText { fault with start := 0 }))
    | _ => ([], some (.notText fault))

/-- The events in files, up to the first fault. -/
def eventsOf : List Path → FileJob (List Value × Option Fault)
  | [] => return ([], none)
  | path :: rest => do
    let disk ← get
    match (Disk.readBytes path).run disk with
    | (.error fault, _) => return ([], some (.file fault))
    | (.ok bytes, _) =>
      match eventsIn bytes with
      | (values, some fault) => return (values, some fault)
      | (values, none) =>
        let (others, fault) ← eventsOf rest
        return (values ++ others, fault)

/-- The events of a journal in order, up to the first fault. -/
def events (journal : Journal) : FileJob (List Value × Option Fault) := do
  eventsOf (← journal.files)

end Journal
end JavaStubs

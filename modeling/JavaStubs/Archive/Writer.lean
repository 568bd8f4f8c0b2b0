import JavaStubs.World

/-!
Writing archives. An archive file is emptied when it is opened. Each entry that is added is written
behind those before it, and the directory behind the last one when the archive is closed; what is
added to a closed archive is refused. Whatever else was written to the file in between stays where
nothing is written over it.
-/
namespace JavaStubs

/-- An archive that is being written. -/
structure ArchiveWriter where
  location : Location
  entries : List ArchiveEntry
  isOpen : Bool
  deriving DecidableEq

namespace ArchiveWriter

/-- Opens an archive file, which is made or emptied. -/
def open_ (path : Path) : Job ArchiveWriter := do
  let location ← Job.onDisk (Disk.write path (.records []))
  return ⟨location, [], true⟩

/-- Bytes with those of others from a place on. What lacks up to that place is filled with zeros. -/
def overlaid (bytes other : ByteArray) (place : Nat) : ByteArray :=
  let front := bytes.extract 0 place
  front ++ ⟨Array.replicate (place - front.size) 0⟩ ++ other.extract place other.size ++
    bytes.extract other.size bytes.size

/-- Writes what follows the entries in a content of the file that begins with them. If the file holds
nothing but the entries, it then holds just that content. -/
def write (writer : ArchiveWriter) (content : Content) : FileJob Unit := do
  match (← get).tree.get? writer.location with
  | some (.file held) =>
    let held := if held = .records writer.entries then content
      else .raw (overlaid held.toBytes content.toBytes (Archive.recordBytes writer.entries).size)
    Disk.putFile writer.location held
  | _ => return

/-- The most bytes that the name of an entry may have. -/
def nameLimit : Nat := 65535

def appended (writer : ArchiveWriter) (name : String) (data : ByteArray) :
    Except Fault ArchiveWriter :=
  let entry := ArchiveEntry.packed name data
  if !writer.isOpen then .error .archiveClosed
  else if nameLimit < entry.name.utf8ByteSize then .error .entryNameSize
  else .ok { writer with entries := writer.entries ++ [entry] }

def add (writer : ArchiveWriter) (name : String) (data : ByteArray) : Job ArchiveWriter := do
  let filled ← Job.ofExcept (writer.appended name data)
  Job.onDisk (writer.write (.records filled.entries))
  return filled

/-- Adds the bytes of a file as an entry. -/
def addFile (writer : ArchiveWriter) (name : String) (source : Path) : Job ArchiveWriter := do
  writer.add name (← Job.onDisk (Disk.readBytes source))

/-- Closes an archive: its directory is written. -/
def close (writer : ArchiveWriter) : Job ArchiveWriter := do
  if writer.isOpen then Job.onDisk (writer.write (.archive writer.entries))
  return { writer with isOpen := false }

/-- The entries of the archive in a file. -/
def read (path : Path) : Job (List ArchiveEntry) := do
  Job.ofExcept ((← Job.onDisk (Disk.readContent path)).entries.mapError .archive)

end ArchiveWriter
end JavaStubs

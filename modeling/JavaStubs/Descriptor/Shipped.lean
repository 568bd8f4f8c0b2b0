import JavaStubs.Fault
import JavaStubs.Files.Disk

/-!
The schemas that come with the program. They lie in a directory of their own, and a schema is asked
for by a path from there; `load` refuses a path whose text, read without regard to links, does not
begin with the text of that directory. A schema that was loaded is kept, and its file is not read again.
-/
namespace JavaStubs.Shipped

def directory : Path := Path.ofText "/java-stubs/src/contracts/schemas"

/-- The schema that is loaded unless another one is asked for. -/
def standard : String := "interface.schema.json"

/-- Lays the schemas down in their directory. -/
def layDown : FileJob Unit := do
  Disk.makeDirectories directory
  let text := String.ofList (Json.write Document.schemaValue)
  let _ ← Disk.write (directory.child standard) (.ofText text)

/-- The disk that the schemas lie on. -/
def disk : Disk := (layDown.run ⟨.empty, [], [], [], 0o022⟩).2

/-- The path that a request leads to from a directory. -/
def resolved (directory : Path) (path : String) : Path := ⟨.root, (directory.child path).normal.names⟩

/-- The schema that a file holds. -/
def readSchema (disk : Disk) (path : Path) : Except Fault Value := do
  let bytes ← ((Disk.readBytes path).run disk).1.mapError .file
  let text ← (Utf8.readText bytes).mapError .notText
  (Json.read text.toList).mapError fun fault => .notJson text.toList fault

/-- The schema that a request asks for, and the schemas that are kept from then on, each by the text of its path. -/
def loadFrom (directory : Path) (disk : Disk) (kept : Fields) (path : String) : Except Fault (Value × Fields) := do
  if Path.hasNul path then throw (.file .nulInName)
  let place := resolved directory path
  if !place.text.startsWith directory.text then throw .outsideSchemas
  match kept.get? place.text with
  | some schema => return (schema, kept)
  | none =>
    let schema ← readSchema disk place
    return (schema, Fields.put place.text schema kept)

def load (path : String) : Except Fault Value := (loadFrom directory disk [] path).map Prod.fst

end JavaStubs.Shipped

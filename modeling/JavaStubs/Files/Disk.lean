import JavaStubs.Files.Tree
import JavaStubs.Text.Utf8

/-!
Operations on files by path name. A disk is a tree of files with the rights to use them, the directory
that relative paths start from, the rights that new files are denied, and the names of files that
cannot be removed. Each operation either has its effect or
ends in a fault that names the path as it was given; `makeDirectories` alone may fail with part of
its effect.
-/
namespace JavaStubs

/-- Files and where a program stands among them. -/
structure Disk where
  tree : FileTree
  here : Location
  /-- The names of files whose removal is refused. -/
  stuck : List String
  /-- The modes of files and directories, where they are not the usual ones. -/
  modes : List (Location × Nat)
  /-- The rights that new files are denied, three bits for each kind of user. -/
  mask : Nat

/-- What the owner of a file, or of a directory, may do with it. -/
inductive Right where
  /-- To read a file, or to list a directory. -/
  | read
  /-- To write a file, or to make and remove what lies in a directory. -/
  | write
  /-- To run a file, or to look up names in a directory. -/
  | run
  deriving DecidableEq, Repr

/-- The bit of a mode that gives a right. -/
def Right.bit : Right → Nat
  | .read => 0o400
  | .write => 0o200
  | .run => 0o100

/-- The mode of a new file. -/
def Entry.usualMode : Entry → Nat
  | .directory => 0o755
  | .program => 0o755
  | .link _ => 0o777
  | .sink => 0o666
  | .file _ => 0o644

/-- An operation on a disk. -/
abbrev FileJob := ExceptT FileFault (StateM Disk)

namespace Disk

open FileTree (Found Purpose)

/-! ## Rights -/

/-- The mode of what lies at a location. -/
def modeAt (disk : Disk) (location : Location) : Nat :=
  (disk.modes.lookup location).getD ((disk.tree.get? location).getD .directory).usualMode

/-- Whether there is a right to what lies at a location. -/
def grants (disk : Disk) (right : Right) (location : Location) : Bool :=
  disk.modeAt location &&& right.bit != 0

/-- Whether names may be looked up in a directory. -/
def enters (disk : Disk) (location : Location) : Bool :=
  (disk.modes.lookup location).all fun mode => mode &&& Right.run.bit != 0

/-- Whether something may be made or removed at a location. -/
def mayChange (disk : Disk) (location : Location) : Bool := disk.grants .write location.tail

/-- The disk with the mode of what lies at a location set. -/
def withMode (disk : Disk) (location : Location) (mode : Nat) : Disk :=
  let others := disk.modes.filter (·.1 != location)
  let usual := ((disk.tree.get? location).getD .directory).usualMode
  { disk with modes := if mode == usual then others else (location, mode) :: others }

/-- A mode without the rights that new files are denied. -/
def masked (disk : Disk) (mode : Nat) : Nat := mode &&& (0o7777 - disk.mask % 0o1000)

/-- The disk after a program has run on it, with what the program does not share with others as it was
before. -/
def leftBy (before after : Disk) : Disk := { after with here := before.here, mask := before.mask }

/-! ## Paths -/

/-- Where names lead from a location. -/
def resolve (disk : Disk) (purpose : Purpose) (location : Location) (names : List String) :
    Except OsCause Found := do
  let found ← disk.tree.resolve disk.enters purpose FileTree.linkLimit location names
  match purpose, found with
  | .write, .entry location (.file _) => if disk.grants .write location then .ok found else .error .denied
  | .write, .vacant location => if disk.mayChange location then .ok found else .error .denied
  | _, found => .ok found

/-- Where relative and absolute paths start. -/
def start (disk : Disk) (path : Path) : Location :=
  if path.isAbsolute then [] else disk.here

/-- Where a path leads. -/
def find (disk : Disk) (purpose : Purpose) (path : Path) : Except OsCause Found :=
  if FileTree.pathLimit ≤ path.text.utf8ByteSize then .error .nameTooLong
  else disk.resolve purpose (disk.start path) path.names

/-- Where a text leads that is taken as it is written: nothing leads nowhere, and what ends in a
separator can only be a directory. -/
def follow (disk : Disk) (purpose : Purpose) (text : String) : Except OsCause Found :=
  if text.isEmpty then .error .notFound
  else if FileTree.pathLimit ≤ text.utf8ByteSize then .error .nameTooLong
  else disk.resolve purpose (FileTree.linkStart disk.here text) (FileTree.linkNames text)

/-- Whether a fault of a look at a path only means that there is nothing. -/
def meansAbsent : OsCause → Bool
  | .notFound => true
  | .notDirectory => true
  | .tooManyLinks => true
  | _ => false

/-- A refusal that concerns a path. -/
def refuse {α : Type} (cause : OsCause) (path : Path) : FileJob α :=
  throw (.os ⟨cause, some path.text⟩)

/-- Refuses names with the NUL character. -/
def checkName (path : Path) : FileJob Unit :=
  if Path.hasNul path.text then throw .nulInName else pure ()

/-- Where a path leads, as the first step of an operation. -/
def seek (purpose : Purpose) (path : Path) : FileJob Found := do
  checkName path
  match (← get).find purpose path with
  | .ok found => return found
  | .error cause => refuse cause path

def put (location : Location) (entry : Entry) : FileJob Unit :=
  modify fun disk => { disk with tree := disk.tree.put location entry }

/-- Sets what lies at a location that was vacant; it gets a mode without the rights that new files are
denied. -/
def putNew (location : Location) (entry : Entry) (mode : Nat) : FileJob Unit := do
  put location entry
  modify fun disk => disk.withMode location (disk.masked mode)

/-- Sets what the file at a location holds; a sink stays what it is. -/
def putFile (location : Location) (content : Content) : FileJob Unit := do
  match (← get).tree.get? location with
  | none => putNew location (.file content) 0o666
  | some .sink => return
  | some _ => put location (.file content)

/-- Clears a location. -/
def erase (location : Location) : FileJob Unit :=
  modify fun disk => { disk with
    tree := disk.tree.erase location
    modes := disk.modes.filter (·.1 != location) }

/-- Refuses a change at a location that there is no right to. -/
def checkChange (location : Location) (path : Path) : FileJob Unit := do
  if !(← get).mayChange location then refuse .denied path

/-! ## Looking -/

/-- What lies at the end of a path, links followed; nothing if the path leads nowhere. -/
def probe (path : Path) : FileJob (Option (Location × Entry)) := do
  if Path.hasNul path.text then return none
  match (← get).find .look path with
  | .ok (.entry location entry) => return some (location, entry)
  | .ok (.vacant _) => return none
  | .error cause => if meansAbsent cause then return none else refuse cause path

/-- Whether something lies at the end of a path. -/
def isThere (path : Path) : FileJob Bool := return (← probe path).isSome

/-- Whether a directory lies at the end of a path. -/
def isDirectory (path : Path) : FileJob Bool :=
  return (← probe path).any fun (_, entry) => entry.isDirectory

/-- Whether a regular file lies at the end of a path. -/
def isFile (path : Path) : FileJob Bool :=
  return (← probe path).any fun (_, entry) => entry.isFile

/-- The content of the file at the end of a path, and its location. -/
def openFile (path : Path) : FileJob (Location × Content) := do
  match ← seek .look path with
  | .vacant _ => refuse .notFound path
  | .entry location (.file content) =>
    if !(← get).grants .read location then refuse .denied path
    return (location, content)
  | .entry location .sink => return (location, .raw .empty)
  | .entry _ .program => refuse .denied path
  | .entry _ _ => refuse .isDirectory path

def readContent (path : Path) : FileJob Content := return (← openFile path).2

def readBytes (path : Path) : FileJob ByteArray := return (← readContent path).toBytes

/-- The number of bytes of an entry; a directory takes up one block. -/
def size : Entry → Nat
  | .file content => content.toBytes.size
  | _ => 4096

/-! ## Writing -/

/-- The refusal to write to a program. -/
def textBusy : OsCause := .other 26 "Text file busy"

/-- The file that a path leads to, as something to be written: its location and its content, which
is empty when the file is yet to be made. -/
def openForWriting (path : Path) : FileJob (Location × Content) := do
  match ← seek .write path with
  | .vacant location => return (location, .raw .empty)
  | .entry location (.file content) => return (location, content)
  | .entry location .sink => return (location, .raw .empty)
  | .entry _ .program => refuse textBusy path
  | .entry _ _ => refuse .isDirectory path

/-- Makes a file have a content, and tells its location. -/
def write (path : Path) (content : Content) : FileJob Location := do
  let (location, _) ← openForWriting path
  putFile location content
  return location

/-- Adds bytes at the end of a file. -/
def append (path : Path) (bytes : ByteArray) : FileJob Unit := do
  let (location, content) ← openForWriting path
  putFile location (.raw (content.toBytes ++ bytes))

/-- Makes one directory. -/
def makeDirectory (path : Path) : FileJob Unit := do
  match ← seek .entry path with
  | .vacant location => do
    checkChange location path
    putNew location .directory 0o777
  | .entry _ _ => refuse .alreadyExists path

/-- Makes a directory, which may be there already. -/
def ensureDirectory (path : Path) : FileJob Unit :=
  tryCatch (makeDirectory path) fun
    | .os ⟨.notFound, file⟩ => throw (.os ⟨.notFound, file⟩)
    | .os fault => do if ← isDirectory path then pure () else throw (.os fault)
    | fault => throw fault

/-- Makes a directory and those above it, as far as they are missing; `above` is the number of
names in the path. -/
def makeDirectoriesFrom : Nat → Path → FileJob Unit
  | 0, path => ensureDirectory path
  | above + 1, path =>
    tryCatch (makeDirectory path) fun
      | .os ⟨.notFound, _⟩ => do
        makeDirectoriesFrom above path.parent
        ensureDirectory path
      | .os fault => do if ← isDirectory path then pure () else throw (.os fault)
      | fault => throw fault

/-- Makes a directory and those above it, as far as they are missing. -/
def makeDirectories (path : Path) : FileJob Unit := makeDirectoriesFrom path.names.length path

/-- Makes a link. -/
def makeLink (path : Path) (target : String) : FileJob Unit := do
  if Path.hasNul target then throw .nulInName
  checkName path
  let refusal (cause : OsCause) : FileFault := .link cause target path.text
  if target.isEmpty then throw (refusal .notFound)
  if FileTree.pathLimit ≤ target.utf8ByteSize then throw (refusal .nameTooLong)
  match (← get).find .entry path with
  | .ok (.vacant location) =>
    if !(← get).mayChange location then throw (refusal .denied)
    put location (.link target)
  | .ok (.entry _ _) => throw (refusal .alreadyExists)
  | .error cause => throw (refusal cause)

/-! ## Removing -/

/-- Removes a file or a link. -/
def removeFile (path : Path) : FileJob Unit := do
  checkName path
  if (← get).stuck.contains path.name then refuse .denied path
  match ← seek .entry path with
  | .vacant _ => refuse .notFound path
  | .entry location entry => do
    checkChange location path
    if entry.isDirectory then refuse .isDirectory path else erase location

/-- Removes an empty directory. -/
def removeDirectory (path : Path) : FileJob Unit := do
  match ← seek .entry path with
  | .vacant _ => refuse .notFound path
  | .entry location .directory =>
    if path.names.isEmpty && !path.isAbsolute then refuse .invalid path
    if path.name != ".." then checkChange location path
    if (← get).tree.children location != [] || path.name == ".." then refuse .notEmpty path
    else erase location
  | .entry _ _ => refuse .notDirectory path

end Disk
end JavaStubs

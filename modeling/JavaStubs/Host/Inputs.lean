import JavaStubs.Host.Options

namespace JavaStubs.Host.Work

def wording : FileFault → String
  | .os fault => fault.cause.wording
  | .link cause _ _ => cause.wording
  | .nulInName => OsCause.notFound.wording

def follow (purpose : FileTree.Purpose) (name : String) :
    Work (Except OsCause FileTree.Found) :=
  return (← get).disk.follow purpose (Octets.toText name)

/-- What lies at the end of a path, links followed or not. -/
def entryAt (purpose : FileTree.Purpose) (name : String) :
    Work (Except OsCause (Location × Entry)) := do
  match ← follow purpose name with
  | .ok (.entry location entry) => return .ok (location, entry)
  | .ok (.vacant _) => return .error .notFound
  | .error cause => return .error cause

/-- The octets of an entry that can be read. -/
def octetsOf : Entry → Except OsCause String
  | .file content => .ok (String.ofList (Octets.ofBytes content.toBytes.toList))
  | .sink => .ok ""
  | .program => .ok ""
  | _ => .error .isDirectory

/-- The octets of the file of a name; a dash names the program's own input. -/
def textOf (name : String) : Work (Except OsCause String) := do
  if name == "-" || name == "/dev/stdin" then return ← takeInput
  match ← entryAt .look name with
  | .error cause => return .error cause
  | .ok (location, entry) =>
    return if (← get).disk.grants .read location then octetsOf entry else .error .denied

/-- The names to read from: the program's own input if there are none. -/
def orInput (names : List String) : List String := if names.isEmpty then ["-"] else names

def complainOf (name : String) (cause : OsCause) (code : Int) : Work Unit :=
  complain s!"{shownName name}: {cause.wording}" code

/-- The name of an input in messages of programs that call their own input by `own`. -/
def inputName (own name : String) : String := if name == "-" then own else name

/-- Does something with each text that can be read. -/
def forTexts (names : List String) (code : Int) (work : String → String → Work Unit) :
    Work Unit :=
  (orInput names).forM fun name => do
    match ← textOf name with
    | .ok text => work name text
    | .error cause => complainOf name cause code

/-- All texts that can be read, one behind another. -/
def joinedTexts (names : List String) (code : Int) : Work String := do
  let texts ← (orInput names).mapM fun name => do
    match ← textOf name with
    | .ok text => return text
    | .error cause =>
      complainOf name cause code
      return ""
  return String.join texts

/-- Writes octets to the file of a name. -/
def writeText (name text : String) (append : Bool) : Work (Except OsCause Unit) := do
  if name == "/dev/stdout" then return .ok (← say text)
  if name == "/dev/stderr" then return .ok (← sayError text)
  match ← follow .write name with
  | .error cause => return .error cause
  | .ok (.entry _ .directory) => return .error .isDirectory
  | .ok found =>
    let old ← match found with
      | .entry _ (.file content) => pure content.toBytes
      | _ => pure .empty
    let bytes : ByteArray := ⟨(Octets.toBytes text.toList).toArray⟩
    let _ ← onDisk (Disk.putFile found.location (.raw (if append then old ++ bytes else bytes)))
    return .ok ()

end JavaStubs.Host.Work

import JavaStubs.World

/-!
Workspaces: directories beside an archive in which it is prepared. `within` gives a job a fresh
one and clears it away again however the job ends; what cannot be cleared away is logged and
changes nothing about that end.
-/
namespace JavaStubs

/-- Something that was left when a workspace was cleared away, and why. -/
structure CleanupIssue where
  path : Path
  message : String
  deriving DecidableEq, Repr

namespace Workspace

/-- The part of the program that log records of workspaces come from. -/
def source : String := "orchestrator.workspace"

/-- A path made absolute from where the program stands. -/
def absolute (path : Path) : Job Path :=
  return Path.absoluteFrom (← get).disk.here.path path

/-! ## Making -/

/-- How many names are tried for a workspace. -/
def attempts : Nat := 10000

/-- The name of the workspace with a number. -/
def nameOf (start : String) (serial : Nat) : String := start ++ inDigits 8 serial

/-- A name in a directory as a text, in which the name stays as it is written. -/
def joined (parent : Path) (name : String) : String :=
  let front := parent.text
  if name.startsWith "/" then name
  else if front.endsWith "/" then front ++ name
  else front ++ "/" ++ name

/-- Makes the directory of a text, which is how a refusal names it. -/
def makeNamed (text : String) : FileJob Path := do
  let path := Path.ofText text
  tryCatch (do
      if FileTree.pathLimit ≤ text.utf8ByteSize then Disk.refuse .nameTooLong path
      Disk.makeDirectory path
      match (← get).find .entry path with
      | .ok found => modify fun disk => disk.withMode found.location 0o700
      | .error _ => pure ()
      return path) fun
    | .os fault => throw (.os { fault with file := some text })
    | fault => throw fault

/-- Makes a directory with the next name that is free, with at most a number of attempts. -/
def makeFresh (parent : Path) (start : String) : Nat → Job Path
  | 0 => throw (.file (.os ⟨.other 17 "No usable temporary directory name found", none⟩))
  | attempts + 1 => do
    modify fun world => { world with serial := world.serial + 1 }
    let text := joined parent (nameOf start (← get).serial)
    match ← Job.attempt (Job.onDisk (makeNamed text)) with
    | .ok path => return path
    | .error (.file (.os ⟨.alreadyExists, _⟩)) => makeFresh parent start attempts
    | .error fault => throw fault

/-- Makes a fresh directory beside an archive, and the directories above it as far as they are
missing. -/
def acquire (archive : Path) (start : String) : Job Path := do
  let parent := (← absolute archive).parent
  Job.refused (Job.onDisk (Disk.makeDirectories parent)) fun fault =>
    .stage (.noDirectory parent fault)
  Job.refused (makeFresh parent start attempts) fun fault => .stage (.noWorkspace parent fault)

/-! ## Clearing away -/

/-- The issue with a path, if an operation on it is refused by the operating system. -/
def issueOf (path : Path) (job : FileJob Unit) : FileJob (List CleanupIssue) :=
  tryCatch (do job; return []) fun
    | .os fault => return [⟨path, fault.message⟩]
    | fault => throw fault

/-- Whether a link lies at the end of a path. -/
def isLink (path : Path) : FileJob Bool := do
  match (← get).find .entry path with
  | .ok (.entry _ (.link _)) => return true
  | _ => return false

/-- Removes a directory, or a link to one. -/
def removeDirectory (path : Path) : FileJob Unit := do
  if ← isLink path then Disk.removeFile path else Disk.removeDirectory path

/-- The names in a directory, the oldest first: those of files, and those of directories, links to
directories among them. -/
def namesIn (path : Path) (location : Location) : FileJob (List String × List String) := do
  let disk ← get
  let isDirectory (name : String) : Bool :=
    match disk.tree.get? (name :: location) with
    | some (.link _) =>
      match disk.find .look (path.child name) with
      | .ok (.entry _ entry) => entry.isDirectory
      | _ => false
    | entry => entry.any (·.isDirectory)
  return (disk.tree.children location).reverse.partition (!isDirectory ·)

/-- Removes what lies in a directory, and tells what is left; what lies in the directories in it goes
first, then its files, then those directories. `fuel` bounds the depth. -/
def clear : Nat → Path → FileJob (List CleanupIssue)
  | 0, _ => return []
  | fuel + 1, path => do
    let refused (cause : OsCause) : FileJob (List CleanupIssue) := issueOf path (Disk.refuse cause path)
    match (← get).find .look path with
    | .error cause => refused cause
    | .ok (.vacant _) => refused .notFound
    | .ok (.entry location .directory) =>
      if !(← get).grants .read location then return ← refused .denied
      let (files, directories) ← namesIn path location
      let below ← directories.mapM fun name => do
        if (← get).tree.get? (name :: location) = some .directory then clear fuel (path.child name)
        else return []
      let first ← files.mapM fun name => issueOf (path.child name) (Disk.removeFile (path.child name))
      let last ← directories.mapM fun name =>
        issueOf (path.child name) (removeDirectory (path.child name))
      return (below ++ first ++ last).flatten
    | .ok (.entry _ _) => refused .notDirectory

/-- Removes a workspace with all that lies in it, and tells what is left and why. -/
def release (workspace : Path) : FileJob (List CleanupIssue) := do
  match ← Disk.probe workspace with
  | none => return []
  | some _ =>
    let issues ← clear ((← get).tree.entries.length + 1) workspace
    return issues ++ (← issueOf workspace (Disk.removeDirectory workspace))

/-- Logs what is left of a workspace. -/
def warn (issues : List CleanupIssue) : Job Unit :=
  issues.forM fun issue =>
    Job.record .warning source s!"Could not clear temp path {issue.path.text}: {issue.message}"

/-- Runs a job in a fresh workspace, which is cleared away when the job has ended. -/
def within {α : Type} (archive : Path) (start : String) (body : Path → Job α) : Job α := do
  let workspace ← acquire archive start
  Job.record .debug source s!"acquired workspace {workspace.text}"
  let result ← Job.attempt (body workspace)
  warn (← Job.onDisk (release workspace))
  Job.ofExcept result

end Workspace
end JavaStubs

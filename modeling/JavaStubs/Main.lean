import JavaStubs.CommandLine.Run
import JavaStubs.Tool.Launch
import Std.Time.DateTime

/-!
The program. It takes the files, the variables and the clock of the host into a world, runs its
command line there, and then brings the files that the run made, changed or removed to the host.
All decisions are made in the world; the host only lends and keeps.
-/
namespace JavaStubs.Program

/-! ## Taking in -/

mutual

/-- What lies at a location and below it. A link is kept by where it really leads. -/
partial def entriesAt (location : Location) : IO (List (Location × Entry)) := do
  let place := (← IO.currentDir) / location.path.text
  match (← place.symlinkMetadata).type with
  | .dir => return (location, .directory) :: (← entriesBelow location)
  | .symlink => return [(location, .link (← IO.FS.realPath place).toString)]
  | .file => return [(location, .file (.raw (← IO.FS.readBinFile place)))]
  | .other => return [(location, .file (.raw .empty))]

/-- What lies below a directory; what cannot be read is left out. -/
partial def entriesBelow (location : Location) : IO (List (Location × Entry)) := do
  let items ← ((← IO.currentDir) / location.path.text).readDir
  let entries ← items.toList.mapM fun item =>
    tryCatch (entriesAt (item.fileName :: location)) fun _ => return []
  return entries.flatten

end

/-- The directories around a location, the root left out. -/
def around : Location → List (Location × Entry)
  | _ :: name :: outer => (name :: outer, .directory) :: around (name :: outer)
  | _ => []

/-- What lies at a path and around it, as far as there is something. -/
def entriesOfPath (here : Location) (path : Path) : IO (List (Location × Entry)) := do
  let location := (Path.absoluteFrom here.path path).names.reverse
  let entries ← tryCatch (entriesAt location) fun _ => return []
  return entries ++ if entries.isEmpty then [] else around location

/-- The paths that a command line works on. -/
def pathsOf (arguments : List String) : List Path :=
  match Command.parse arguments with
  | .error _ => []
  | .ok command =>
    let product := match command.product with
      | .source root => root.map Path.ofText
      | .archive path => path.map fun path => (Path.ofText path).parent
    product.toList ++
      ((command.documents ++ command.journalDir.toList).filterMap id).map Path.ofText

/-- The variables that settings and searches for programs go by. -/
def environment : IO Environment := do
  let names := "PATH" :: Settings.variableNames.map (·.2)
  return (← names.mapM fun name => return (name, ← IO.getEnv name)).filterMap fun (name, value) =>
    value.map fun value => (name, value)

/-- The present in universal time. -/
def now : IO Instant := do
  let wall := Std.Time.WallTime.ofDuration (← Std.Time.Timestamp.now).val
  let ⟨date, time⟩ := Std.Time.PlainDateTime.ofWallTime wall
  return ⟨⟨date.year.toInt.toNat, date.month.toNat, date.day.toNat⟩,
    ⟨time.hour.toNat, time.minute.toNat, time.second.toNat, time.nanosecond.toNat / 1000⟩⟩

/-- The world that a command line is run in: the working directory, the paths that the command
line names, and the configuration file beside the program. -/
def world (arguments : List String) : IO World := do
  let here := (Path.ofText (← IO.currentDir).toString).names.reverse
  let config := Path.ofText ((← IO.appDir) / "config.toml").toString
  let entries ← (⟨.here, []⟩ :: config :: pathsOf arguments).mapM (entriesOfPath here)
  let tree : FileTree := ⟨entries.flatten ++ Host.Programs.tree.entries⟩
  return World.start ⟨tree, here, [], [], 0o022⟩ (← environment) (← now) (some config)

/-! ## Bringing back -/

/-- Brings what changed from one tree to a later one to the host. -/
def bringBack (before after : FileTree) : IO Unit := do
  for (location, entry) in after.entries.reverse do
    unless before.get? location == some entry do
      match entry with
      | .directory => IO.FS.createDirAll location.path.text
      | .file content => IO.FS.writeBinFile location.path.text content.toBytes
      | _ => pure ()
  for (location, entry) in before.entries do
    if (after.get? location).isNone then
      if entry.isDirectory then IO.FS.removeDirAll location.path.text
      else IO.FS.removeFile location.path.text

/-! ## Running -/

/-- Runs a command line; the exit code is the run's own, or 1 if a fault ended it. -/
def run (arguments : List String) : IO UInt32 := do
  let world ← world arguments
  let tools : Tools := ⟨Launch.introspector, fun arguments => Launch.run arguments []⟩
  let (report, after) := Command.run arguments tools world
  bringBack world.disk.tree after.disk.tree
  IO.print report.stdout
  IO.eprint report.stderr
  match report.code with
  | .ok code => return UInt32.ofNat code.toNat
  | .error fault =>
    IO.eprintln fault.message
    return 1

end JavaStubs.Program

/-- Runs the command line that the program was started with. -/
def main (arguments : List String) : IO UInt32 := JavaStubs.Program.run arguments

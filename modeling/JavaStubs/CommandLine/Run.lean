import JavaStubs.CommandLine.Command
import JavaStubs.Config.Current
import JavaStubs.Implementor
import JavaStubs.Introspection.Basic

/-!
Running a command line: its exit code and what it prints. Failures of stages and faulty values end
in a report of one line and the exit code 1, a refused command line in the exit code 2; any other
fault ends the run itself.
-/
namespace JavaStubs

/-- The external tools. -/
structure Tools where
  /-- How types are described by a disassembler with a command and a class path. -/
  introspector : String → List Path → Introspector
  /-- What the run of a compiler with given arguments does. -/
  compile : List String → Job Outcome

/-- The end of a run: the exit code, unless a fault ended it, and what was printed. -/
structure Report where
  code : Except Fault Int
  stdout : String
  stderr : String

namespace Command

/-- Whether a fault is one that the program reports instead of ending in it. -/
def isReported : Fault → Bool
  | .stage _ => true
  | .file .nulInName => true
  | .document (.beyond (.tooDeep _)) => false
  | .document _ => true
  | .notText _ => true
  | .notJson _ ⟨.tooDeep _, _⟩ => false
  | .notJson .. => true
  | .event .noTable => false
  | .event .noWord => false
  | .event _ => true
  | .settings (.noSwitch _) => true
  | .settings .noSuffix => true
  | .settings .tooManyDigits => true
  | .config malformed => malformed.fault.cause != .tooDeep
  | .noSuffix _ => true
  | .outsideSchemas => true
  | .archive (.noName _) => true
  | .archiveClosed => true
  | .noOutcome .badVariable => true
  | _ => false

/-- The path that an option is given. -/
def pathOf : Given → Job Path
  | some text => return Path.ofText text
  | none => throw .noPath

/-- The catalog of the documents that a command names. A document without a name is refused when
its turn comes. -/
def catalog (documents : List Given) : Job Catalog := do
  return Catalog.ofTypes (← documents.mapM fun
    | some document => Catalog.loadInput document
    | none => throw .noPath)

/-- The class path that a command gives in pieces. -/
def classpathOf (pieces : List Given) : Job (List Path) := do
  let texts ← pieces.mapM fun
    | some text => return text
    | none => throw .noClasspath
  return (splitClasspath texts).map Path.ofText

/-- The introspector that a command asks for: the documents that it names, or else the
disassembler. -/
def introspector (command : Command) (settings : Settings) (tools : Tools) : Job Introspector :=
  if command.documents.isEmpty then do
    return tools.introspector settings.javap (← classpathOf command.classpath)
  else do return (← catalog command.documents).introspector

/-- Carries a command out; the texts are what it prints and what it reports. -/
def execute (command : Command) (tools : Tools) : Job (Int × String × String) := do
  let settings ← Config.settings (← get).environment command.overrides
  let introspector ← command.introspector settings tools
  let compiler := Compiler.command tools.compile settings.javac settings.javacArgs
  let implementor : Implementor :=
    ⟨settings, introspector, compiler, Implementor.journalOf settings⟩
  match command.product with
  | .source root =>
    match ← implementor.generateSource command.type (← pathOf root) with
    | some path => return (0, path.text ++ "\n", "")
    | none => return (1, "", s!"Could not write source for {command.type}\n")
  | .archive path =>
    return (0, (← implementor.generateArchive command.type (← pathOf path)).text ++ "\n", "")

/-- The lines of the log that a run prints. -/
def logText (verbose : Bool) (records : List LogRecord) : String :=
  String.join ((records.filter fun record => verbose || record.level == .warning).map
    (·.line ++ "\n"))

/-- Runs a command line. -/
def run (texts : List String) (tools : Tools) (world : World) : Report × World :=
  match parse texts with
  | .error ⟨_, .help⟩ => (⟨.ok 0, "", ""⟩, world)
  | .error refusal => (⟨.ok 2, "", refusal.message ++ "\n"⟩, world)
  | .ok command =>
    let (result, after) := (command.execute tools).run world
    let log := logText command.verbose (after.log.drop world.log.length)
    match result with
    | .ok (code, stdout, stderr) => (⟨.ok code, stdout, log ++ stderr⟩, after)
    | .error fault =>
      if isReported fault then
        (⟨.ok 1, "", log ++ s!"error: {fault.message}\n"⟩, after)
      else (⟨.error fault, "", log⟩, after)

end Command
end JavaStubs

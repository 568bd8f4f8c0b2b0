import JavaStubs.Host.Programs
import JavaStubs.Introspection.Disassembler

/-!
Starting programs as tools. A command without a separator is searched for in the directories of the
search path, any other one is a path; the program is the first file found that can be run. What a
program prints is taken as text with uniform line ends.
-/
namespace JavaStubs.Launch

open Host (Call Finish Piece)

/-- The directories that are searched unless the environment names others. -/
def searchPath : String := "/bin:/usr/bin"

/-- The files that a command may mean. -/
def candidates (environment : Environment) (command : String) : List String :=
  if command.toList.contains '/' then [command]
  else (Text.fieldsOf ':' ((environment.lookup "PATH").getD searchPath)).map fun directory =>
    if directory.isEmpty || directory.endsWith "/" then directory ++ command
    else directory ++ "/" ++ command

/-- Whether a search goes on behind an obstacle as if nothing had been there. -/
def isPassedOver : OsCause → Bool
  | .notFound => true
  | .notDirectory => true
  | _ => false

/-- What the first program among paths does, or the obstacle that counts: the first one that a
search does not simply pass over, or else the last. -/
def first (run : String → Except OsCause Finish) (met : OsCause) :
    List String → Except OsCause Finish
  | [] => .error met
  | path :: rest =>
    match run path with
    | .ok done => .ok done
    | .error cause => first run (if isPassedOver met then cause else met) rest

/-- Runs a program, in an environment of its own. -/
def start (environment : Environment) (arguments : List String) (disk : Disk) :
    Except ToolFault Finish :=
  match arguments with
  | [] => .error .noCommand
  | command :: rest =>
    let bindings := environment.flatMap fun (name, value) => [name, value]
    if environment.any fun (name, _) => name.toList.contains '=' then .error .badVariable
    else if (arguments ++ bindings).any Path.hasNul then .error (.refused .nulInName)
    else
      let octets := environment.map fun (name, value) => (Octets.ofText name, Octets.ofText value)
      let call : Call := ⟨Octets.ofText command, rest.map Octets.ofText, octets, "", .stream⟩
      let run (path : String) := Host.Programs.start Host.Programs.depth (Octets.ofText path) call disk
      (first run .notFound (candidates environment command)).mapError fun cause =>
        .refused (.os ⟨cause, some command⟩)

/-- The bytes of what was printed in one way. -/
def bytesOf (choose : Piece → Option String) (printed : List Piece) : ByteArray :=
  ⟨(Octets.toBytes (String.join (printed.filterMap choose)).toList).toArray⟩

/-- The outcome of a run whose output is text. -/
def outcomeOf (finish : Finish) : Except ToolFault Outcome := do
  let text (choose : Piece → Option String) : Except ToolFault String :=
    (Utf8.readText (bytesOf choose finish.printed)).mapError .notText
  let stdout ← text fun
    | .out text => some text
    | .err _ => none
  let stderr ← text fun
    | .err text => some text
    | .out _ => none
  return ⟨finish.code, stdout, stderr⟩

/-- Runs a program as a tool, with variables of the caller. -/
def run (arguments : List String) (overrides : Environment) : Job Outcome := do
  let world ← get
  match start (world.environment.forTool overrides) arguments world.disk with
  | .error fault => throw fault.toFault
  | .ok finish =>
    set { world with disk := world.disk.leftBy finish.disk }
    Job.ofExcept ((outcomeOf finish).mapError ToolFault.toFault)

/-- Describes types by running a program as a disassembler. -/
def introspector (command : String) (classpath : List Path) : Introspector :=
  Disassembler.explorer command classpath fun arguments => run arguments []

end JavaStubs.Launch

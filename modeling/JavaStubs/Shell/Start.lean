import JavaStubs.Shell.Evaluation

namespace JavaStubs.Shell

open Host (Starter Call Finish)

namespace Start

/-- Where programs are searched if the environment does not say it. -/
def searchPath : String := "/usr/local/sbin:/usr/local/bin:/usr/sbin:/usr/bin:/sbin:/bin"

/-- The variables of a session that begins, of which those of the environment are handed on. -/
def bindings (environment : Environment) : List (String × Variable) :=
  let own (name value : String) : String × Variable := (name, ⟨some value, false, false⟩)
  let initial := [own "IFS" " \t\n", own "PATH" searchPath, own "PS1" "# ", own "PS2" "> ",
    own "PS4" "+ ", own "PPID" "1"]
  let all := environment.foldl (fun held (name, value) =>
    if isName name && name != "IFS" then Act.withVariable name (some ⟨some value, true, false⟩) held
    else held) initial
  Act.withVariable "OPTIND" (some ⟨some "1", false, false⟩) all

/-- The session that a script begins in. -/
def session (call : Call) (disk : Disk) : Session where
  disk := disk
  channels := [(0, .source call.input call.origin), (1, .output), (2, .errors)]
  fresh := 3
  printed := []
  documents := []
  freshDocument := 0
  signals := []
  jobStates := []
  clock := 0
  limit := none
  name := call.name
  arguments := []
  bindings := bindings call.environment
  functions := []
  aliases := []
  options := []
  streams := [(0, 0), (1, 1), (2, 2)]
  status := 0
  outputStatus := 0
  line := 0
  lineRead := 0
  command := none
  buffer := []
  traps := []
  outerTraps := []
  loops := 0
  locals := []
  isSubshell := false
  jobs := []
  lastJob := none
  optionPlace := .start

/-- Turns the options of letters that share a sign on or off, and gives the arguments behind them,
and whether a script is given as an argument. -/
def turnLetters (on : Bool) : List Char → List String → Act (List String × Bool)
  | [], rest => return (rest, false)
  | 'c' :: letters, rest => do
    let (rest, _) ← turnLetters on letters rest
    return (rest, true)
  | 'l' :: letters, rest => turnLetters on letters rest
  | 'o' :: letters, rest => do
    Builtin.turnNamed on rest.head?
    turnLetters on letters (rest.drop 1)
  | letter :: letters, rest => do
    Builtin.turn on letter
    turnLetters on letters rest

/-- Turns the options at the start of arguments on or off, and gives the arguments behind them, and
whether a script is given as an argument. -/
def turnAll : Nat → Bool → List String → Act (List String × Bool)
  | fuel + 1, given, argument :: rest => do
    let on (sign : Bool) (letters : List Char) : Act (List String × Bool) := do
      let (rest, more) ← turnLetters sign letters rest
      turnAll fuel (given || more) rest
    match argument.toList with
    | ['-'] => return (rest, given)
    | ['-', '-'] => return (rest, given)
    | '-' :: letters => on true letters
    | '+' :: letters => on false letters
    | _ => return (argument :: rest, given)
  | _, given, rest => return (rest, given)

/-- Prints the text of lines that were read, if that is asked for. -/
def show_ (text : String) : Act Unit := do
  if ← Act.hasOption 'v' then let _ ← Act.print 2 text

/-- Runs a text that is read line by line. -/
def readAlong (runner : Runner) (text : String) : Act Int :=
  runner.runText false show_ (text.length + 2) 0 1 text.toList

/-- Runs what the command line asks for. -/
def run (runner : Runner) (arguments : List String) : Act Int := do
  Act.putVariable "PWD" (some ⟨some (← Builtin.directory), true, false⟩)
  let (rest, given) ← turnAll (arguments.length + 1) false arguments
  match given, rest with
  | true, [] => Act.fail "-c requires an argument"
  | true, text :: rest =>
    modify fun session => { session with
      name := (rest.head?).getD session.name
      arguments := rest.drop 1 }
    runner.runScript false text
  | false, rest =>
    if rest.isEmpty || (← Act.hasOption 's') then
      modify fun session => { session with
        arguments := rest
        options := 's' :: session.options.filter (· != 's') }
      let text := ((← Act.readable 0).getD ("", .stream)).1
      Act.leave 0 ""
      readAlong runner text
    else
      let name := rest.head?.getD ""
      match ← Target.openInput name with
      | .error message => Act.fail message
      | .ok channel =>
        modify fun session => { session with name := name, arguments := rest.drop 1 }
        readAlong runner (match channel with
          | .source text _ => text
          | _ => "")

end Start

/-- Runs the shell as a program. -/
def program (start : Starter) (call : Call) (disk : Disk) : Finish :=
  let runner := runner start
  let whole : Act Int := do
    let result ← Act.attempt (do runner.conclude (← Act.attempt (Start.run runner call.arguments)))
    runner.finishJobs
    Act.resume result
  let (result, after) := whole.run (Start.session call disk)
  let rest := match after.channels.lookup 0 with
    | some (.source text _) => text
    | _ => ""
  let code : Int := match result with
    | .ok status => status
    | .error (.killed signal) => -(signal : Int)
    | .error _ => after.status
  ⟨code, after.printed.reverse, rest, after.disk⟩

end JavaStubs.Shell

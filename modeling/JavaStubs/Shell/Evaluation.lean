import JavaStubs.Shell.Jobs

namespace JavaStubs.Shell

open Host (Starter Call Finish)

namespace Runner

/-! ## Programs -/

/-- What the shell says about a program that cannot be run, and its status then. -/
def startFailure : OsCause → String × Int
  | .notFound => ("not found", 127)
  | .notDirectory => ("not found", 127)
  | .nameTooLong => (OsCause.nameTooLong.wording, 127)
  | .tooManyLinks => (OsCause.tooManyLinks.wording, 127)
  | cause => (cause.wording, 126)

/-- Takes over what the run of a program left. -/
def takeOver (finish : Finish) : Act Int := do
  modify fun session => { session with disk := session.disk.leftBy finish.disk }
  finish.printed.forM fun
    | .out text => do let _ ← Act.print 1 text
    | .err text => do let _ ← Act.print 2 text
  Act.leave 0 finish.rest
  if finish.code < 0 then
    if let some message := ending finish.code.natAbs then
      let _ ← Act.print 2 (message ++ "\n")
    return 128 + (finish.code.natAbs : Int)
  return finish.code

/-- Runs the program at a path. A file that is no program of any kind is run as a script. -/
def startAt (runner : Runner) (path name : String) (arguments : List String) : Act Int := do
  let (input, origin) := (← Act.readable 0).getD ("", .stream)
  let call : Call := ⟨name, arguments, ← Act.environment, input, origin⟩
  let disk := (← get).disk
  let result := match runner.start path call disk with
    | .error (.other 8 _) =>
      let name := "/bin/sh"
      runner.start name { call with name := name, arguments := path :: arguments } disk
    | result => result
  match result with
  | .ok finish => takeOver finish
  | .error cause =>
    let (message, status) := startFailure cause
    Act.report s!"{name}: {message}"
    return status

/-- Whether a file that cannot be run lies at one of the paths that a program is looked up at. -/
def isDenied (name : String) : Act Bool := do
  let disk := (← get).disk
  return (Text.fieldsOf ':' (← Act.searchPath)).any fun directory =>
    let path := if directory.isEmpty then name else directory ++ "/" ++ name
    match disk.follow .look (Octets.toText path) with
    | .ok (.entry _ _) => true
    | _ => false

/-- Runs a program by its name. -/
def runProgram (runner : Runner) (name : String) (arguments : List String) : Act Int := do
  runner.rest (sleepOf name arguments)
  if name.toList.contains '/' then return ← runner.startAt name name arguments
  match ← Builtin.programPath? name with
  | some path => runner.startAt path name arguments
  | none =>
    let message := if ← isDenied name then OsCause.denied.wording else "not found"
    Act.report s!"{name}: {message}"
    return 127

/-! ## Functions -/

/-- Runs the body of a function with arguments. -/
def call (runner : Runner) (tested : Bool) (body : Command) (arguments : List String) :
    Act Int := do
  let before ← get
  set { before with
    arguments := arguments
    loops := 0
    optionPlace := .start
    locals := [] :: before.locals }
  let result ← Act.attempt (runner.run tested body)
  modify fun session => { session with
    arguments := before.arguments
    loops := before.loops
    optionPlace := before.optionPlace
    locals := before.locals
    bindings := ((session.locals.head?.getD []).reverse).foldl
      (fun bindings (name, old) => Act.withVariable name old bindings) session.bindings }
  match result with
  | .error (.return_ status) => return status
  | result => Act.resume result

/-! ## Builtin commands that run others -/

/-- The path of a script that is read into this one. -/
def includedPath (name : String) : Act String := do
  if name.toList.contains '/' then return name
  let disk := (← get).disk
  let paths := (Text.fieldsOf ':' (← Act.searchPath)).map fun directory =>
    if directory.isEmpty then name else directory ++ "/" ++ name
  match paths.find? fun path =>
    match disk.follow .look (Octets.toText path) with
    | .ok (.entry _ (.file _)) => true
    | _ => false with
  | some path => return path
  | none => Act.fail s!"{name}: not found"

/-- Runs the script in a file as part of this one. Its commands are not part of a test. -/
def include_ (runner : Runner) (arguments : List String) : Act Int := do
  match arguments with
  | [] => return 0
  | name :: _ =>
    let path ← includedPath name
    match ← Target.openInput path with
    | .error message => Act.fail message
    | .ok channel =>
      let text := match channel with
        | .source text _ => text
        | _ => ""
      let loops := (← get).loops
      modify fun session => { session with command := some path, loops := 0 }
      let result ← Act.attempt (runner.runScript false text)
      modify fun session => { session with loops := loops }
      match result with
      | .error (.return_ status) => return status
      | result => Act.resume result

/-- The status that a builtin command is given, or the present one. -/
def statusArgument (arguments : List String) : Act Int := do
  match arguments with
  | [] => return (← get).status
  | text :: _ => return (← Builtin.numberOf text)

/-- The number of loops that a builtin command is given, as far as there are loops. -/
def loopArgument (arguments : List String) : Act Nat := do
  let count ← match arguments with
    | [] => pure 1
    | text :: _ =>
      let count ← Builtin.numberOf text
      if count = 0 then Act.fail s!"Illegal number: {text}"
      pure count
  return min count (← get).loops

/-- Ends the shell by becoming a program. -/
def become (runner : Runner) (arguments : List String) : Act Int := do
  match arguments with
  | [] => return 0
  | name :: arguments =>
    let status ← runner.runProgram name arguments
    modify fun session => { session with traps := [] }
    throw (.exit status)

/-- Tells what commands mean, if that is asked for. -/
def explain (arguments : List String) : Act Int := do
  let given ← Builtin.withOptions "pvV" "" arguments
  match given.last? ['v', 'V'], given.operands with
  | some letter, word :: _ => Builtin.describe (letter == 'V') word
  | _, _ => return 0

/-- What a builtin command does. -/
def builtin? (runner : Runner) (tested : Bool) (name : String) : Option (List String → Act Int) :=
  match name with
  | "eval" => some fun arguments => runner.runScript tested (Text.joined " " arguments)
  | "." => some runner.include_
  | "exec" => some runner.become
  | "command" => some explain
  | "wait" => some runner.wait
  | "jobs" => some runner.showJobs
  | "kill" => some (Builtin.kill runner.sendToJob)
  | "exit" => some fun arguments => do throw (.exit (← statusArgument arguments))
  | "return" => some fun arguments => do throw (.return_ (← statusArgument arguments))
  | "break" => some fun arguments => do
    let loops ← loopArgument arguments
    if 0 < loops then throw (.break_ loops)
    return 0
  | "continue" => some fun arguments => do
    let loops ← loopArgument arguments
    if 0 < loops then throw (.continue_ loops)
    return 0
  | name => Builtin.find? name

/-- Prints what a builtin command is going to print. -/
def flush (name : String) : Act Bool := do
  let text := String.join (← get).buffer.reverse
  modify fun session => { session with buffer := [] }
  if text.isEmpty then return true
  if ← Act.print 1 text then return true
  Act.report s!"{name}: I/O error"
  return false

/-- Runs a builtin command; an error in one that is not part of the language is no more than a
status. -/
def runBuiltin (name : String) (isPart : Bool) (action : Act Int) : Act Int := do
  let outer := (← get).command
  modify fun session => { session with command := some name }
  let result ← Act.attempt action
  let printed ← flush name
  modify fun session => { session with command := outer }
  match result with
  | .ok status => return if printed then status else 1
  | .error (.fault status) => if isPart then throw (.fault status) else return status
  | .error jump => throw jump

/-! ## Simple commands -/

/-- The words of a simple command behind words that only say that functions do not count, and
whether there are such words. -/
def withoutCommand : Nat → List String → Bool × List String
  | fuel + 1, "command" :: rest =>
    match (Host.options "pvV" "" []).readLeading rest with
    | .ok given =>
      if given.has 'v' || given.has 'V' || given.operands.isEmpty then (false, "command" :: rest)
      else (true, (withoutCommand fuel given.operands).2)
    | .error _ => (false, "command" :: rest)
  | _, words => (false, words)

/-- The builtin commands whose arguments may be assignments. -/
def takesAssignments (words : List String) : Bool :=
  match (withoutCommand words.length words).2 with
  | name :: _ => ["export", "readonly", "local"].contains name
  | [] => false

/-- The fields of the words of a command. -/
def fieldsOf (runner : Runner) (done : List String) : List Word → Act (List String)
  | [] => return done
  | word :: rest => do
    let fields ← match assignment? word, takesAssignments done with
      | some (name, value), true =>
        pure [name ++ "=" ++ (← Expansion.text runner.outputOf .assigned value)]
      | _, _ => Expansion.fields runner.outputOf word
    runner.fieldsOf (done ++ fields) rest

/-- Gives variables the values of assignments, and tells what was assigned. -/
def assignAll (runner : Runner) (exports : Bool) : List Word → Act (List String)
  | [] => return []
  | word :: rest => do
    let (name, value) := (assignment? word).getD ("", word)
    let text ← Expansion.text runner.outputOf .assigned value
    Act.setVariable name text
    if exports then Act.putVariable name (some ⟨some text, true, false⟩)
    return (name ++ "=" ++ text) :: (← runner.assignAll exports rest)

/-- What stands before a command that is shown: a value that is expanded, or stays as it is where that
fails. -/
def traceStart (runner : Runner) : Act String := do
  let value := (← Act.valueOf? "PS4").getD ""
  let reader := Reader.start value.toList (← get).line 0 []
  let result ← Act.attempt (do
    match (Reading.quotedText.run reader).1 with
    | .ok word => Expansion.text runner.outputOf .nowhere word
    | .error misread => Act.fail s!"Syntax error: {misread.message}")
  return result.toOption.getD value

/-- Shows a command that is going to be run, if that is asked for. -/
def trace (runner : Runner) (errors : Option Nat) (words : List String) : Act Unit := do
  if (← Act.hasOption 'x') && !words.isEmpty then
    let start ← runner.traceStart
    if let some errors := errors then
      let _ ← Act.printTo errors (start ++ Text.joined " " words ++ "\n")

/-- Runs what the words of a command name. -/
def dispatch (runner : Runner) (tested : Bool) (words : List String) : Act Int := do
  let (skips, effective) := withoutCommand words.length words
  match effective with
  | [] => return (← get).outputStatus
  | name :: arguments =>
    match (← get).functions.lookup name, skips with
    | some body, false => runner.call tested body arguments
    | _, _ =>
      match runner.builtin? tested name with
      | some action =>
        runBuiltin name (!skips && Reading.specialNames.contains name) (action arguments)
      | none => runner.runProgram name arguments

/-- What the words of a command name: a builtin command that is part of the language, or something
else. -/
def isPart (words : List String) : Act Bool := do
  match words with
  | name :: _ => return Reading.specialNames.contains name
  | [] => return false

/-- Runs a simple command. Its streams are led back behind it, unless it is to change them for
good. -/
def simple (runner : Runner) (tested : Bool) (assignments words : List Word)
    (redirections : List Redirection) : Act Int := do
  modify fun session => { session with outputStatus := 0 }
  let fields ← runner.fieldsOf [] words
  let isPart ← isPart fields
  let streams := (← get).streams
  let keeps := (withoutCommand fields.length fields).2.head? = some "exec"
  let back (session : Session) : Session :=
    if keeps then session else { session with streams := streams }
  let status ← Act.andThen (do
    if !(← Redirection.make runner.outputOf redirections) then
      if isPart then throw (.fault 2)
      return none
    let names := assignments.filterMap fun word => (assignment? word).map Prod.fst
    let before := (← get).bindings
    let isLocal := !fields.isEmpty && !isPart
    let assigned ← runner.assignAll (isLocal || keeps) assignments
    runner.trace (streams.lookup 2) (assigned ++ fields)
    let part := runner.dispatch tested fields
    if isLocal then
      return some (← Act.andThen part fun session => { session with
        bindings := names.foldl (fun bindings name =>
          Act.withVariable name (before.lookup name) bindings) session.bindings })
    return some (← part)) back
  return status.getD 2

/-! ## Compound commands -/

/-- Goes on behind the body of a loop: with the next round, or with the status of the loop. -/
def afterRound (result : Except Jump Int) (next : Int → Act Int) : Act Int := do
  match result with
  | .ok status => next status
  | .error (.break_ 0) => return 0
  | .error (.break_ 1) => return 0
  | .error (.break_ (loops + 2)) => throw (.break_ (loops + 1))
  | .error (.continue_ 0) => next 0
  | .error (.continue_ 1) => next 0
  | .error (.continue_ (loops + 2)) => throw (.continue_ (loops + 1))
  | .error jump => throw jump

/-- Runs a loop of at most a number of rounds. -/
def loop (runner : Runner) (tested inverse : Bool) (test body : Command) : Nat → Int → Act Int
  | 0, _ => throw (.killed 13)
  | rounds + 1, status => do
    let result ← Act.attempt (do
      let holds ← runner.run true test
      if (holds = 0) = inverse then return none
      return some (← runner.run tested body))
    match result with
    | .ok none => return status
    | .ok (some status) => runner.loop tested inverse test body rounds status
    | .error jump =>
      afterRound (.error jump) fun status => runner.loop tested inverse test body rounds status

/-- The most rounds that a loop is followed for. -/
def rounds : Nat := 200000

def each (runner : Runner) (tested : Bool) (name : String) (body : Command) :
    List String → Int → Act Int
  | [], status => return status
  | text :: rest, _ => do
    Act.setVariable name text
    let result ← Act.attempt (runner.run tested body)
    afterRound result fun status => runner.each tested name body rest status

/-- Runs a part inside one more loop. -/
def inLoop (part : Act Int) : Act Int := do
  let loops := (← get).loops
  modify fun session => { session with loops := loops + 1 }
  Act.andThen part fun session => { session with loops := loops }

/-- Runs the first case of which a pattern fits a text. -/
def choice (runner : Runner) (tested : Bool) (text : String) :
    List (List Word × Option Command) → Act Int
  | [] => return 0
  | (patterns, body) :: rest => do
    let fits ← patterns.foldlM (fun found word => do
      if found then return true
      return Host.Pattern.matches_ (← Expansion.pattern runner.outputOf word) text.toList) false
    match fits, body with
    | true, some body => runner.run tested body
    | true, none => return 0
    | false, _ => runner.choice tested text rest

/-- Runs commands each of which reads what the one before it prints. -/
def pipeline (runner : Runner) (tested : Bool) : Option Nat → List Command → Act Int
  | _, [] => return 0
  | input, command :: rest => do
    let channel ← Act.newChannel (.capture [])
    let status ← runner.subshell do
      if let some input := input then Act.connect 0 (some input)
      if !rest.isEmpty then Act.connect 1 (some channel)
      runner.run tested command
    if rest.isEmpty then return status
    runner.finishJobsOn channel
    let text := match (← get).channels.lookup channel with
      | some (.capture texts) => String.join texts.reverse
      | _ => ""
    Act.setChannel channel (.source text .stream)
    runner.pipeline tested (some channel) rest

def redirected (runner : Runner) (tested : Bool) (command : Command)
    (redirections : List Redirection) : Act Int := do
  let streams := (← get).streams
  Act.andThen (do
    if !(← Redirection.make runner.outputOf redirections) then return 2
    runner.run tested command) fun session => { session with streams := streams }

/-! ## Between commands -/

/-- Ends the script if a command failed that was not meant to. -/
def check (tested : Bool) (status : Int) : Act Unit := do
  modify fun session => { session with status := status }
  if !tested && status ≠ 0 && (← Act.hasOption 'e') then throw (.exit status)

/-- Runs the actions for the signals that came. -/
def handleSignals (runner : Runner) : Act Unit := do
  let session ← get
  if session.isSubshell || session.signals.isEmpty then return
  set { session with signals := [] }
  session.signals.reverse.forM fun signal => do
    let session ← get
    if let some action := session.traps.lookup (Builtin.signalName signal) then
      let _ ← runner.runScript false action
      modify fun after => { after with status := session.status }

def noteLine (line : Nat) : Act Unit := modify fun session => { session with line := line }

/-- Runs a command. -/
def step (runner : Runner) (tested : Bool) (command : Command) : Act Int := do
  if ← Act.hasOption 'n' then return (← get).status
  match command with
  | .simple line assignments words redirections =>
    noteLine line
    let status ← runner.simple tested assignments words redirections
    check tested status
    return status
  | .pipeline commands =>
    let status ← runner.pipeline tested none commands
    check tested status
    return status
  | .subshell line command =>
    noteLine line
    let status ← runner.subshell (runner.run tested command)
    check tested status
    return status
  | .background line command =>
    noteLine line
    background command
  | .negated command => return if (← runner.run true command) = 0 then 1 else 0
  | .both first second =>
    let status ← runner.run true first
    if status = 0 then runner.run tested second else return status
  | .either first second =>
    let status ← runner.run true first
    if status = 0 then return status else runner.run tested second
  | .sequence first second =>
    let _ ← runner.run tested first
    runner.run tested second
  | .redirected line command redirections =>
    noteLine line
    runner.redirected tested command redirections
  | .conditional test first second =>
    if (← runner.run true test) = 0 then runner.run tested first
    else match second with
      | some second => runner.run tested second
      | none => return 0
  | .loop inverse test body => inLoop (runner.loop tested inverse test body rounds 0)
  | .each line name words body =>
    noteLine line
    let texts := (← words.mapM (Expansion.fields runner.outputOf)).flatten
    inLoop (runner.each tested name body texts 0)
  | .choice line word cases =>
    noteLine line
    let text ← Expansion.text runner.outputOf .atStart word
    runner.choice tested text cases
  | .define _ name body =>
    modify fun session => { session with
      functions := (name, body) :: session.functions.filter (·.1 != name) }
    return 0

end Runner

/-- Runs a command, up to a depth of commands in commands. -/
def evaluate (start : Starter) : Nat → Bool → Command → Act Int
  | 0, _, _ => throw (.killed 11)
  | depth + 1, tested, command => do
    let runner : Runner := ⟨evaluate start depth, start⟩
    let status ← runner.step tested command
    modify fun session => { session with status := status }
    runner.handleSignals
    return status

/-- The depth of commands in commands that is followed. -/
def depth : Nat := 4000

def runner (start : Starter) : Runner := ⟨evaluate start depth, start⟩

end JavaStubs.Shell

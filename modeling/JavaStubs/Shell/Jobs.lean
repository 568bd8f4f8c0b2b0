import JavaStubs.Shell.Builtins
import JavaStubs.Shell.Redirection
import JavaStubs.Host.BasicTools

/-!
Running scripts in scripts: the text of a script line by line (`runText`), and a script up to its end,
behind which the action for the end is run (`conclude`). A command itself is run by a procedure that
is handed in (`Runner`).

There are subshells and commands in the background. A command in the background is run when the shell gives
way: when it waits for one, when it sleeps or runs a program, and at its end. Time passes only where
something sleeps (`Session.clock`), and the commands are run in the order of the times at which they
first do something; one that would sleep beyond the time at hand is left as if it had not begun.
-/
namespace JavaStubs.Shell

open Host (Starter)

/-- The procedures for what is inside a command. -/
structure Runner where
  /-- Runs a command, whose failing may be part of a test. -/
  run : Bool → Command → Act Int
  start : Starter

namespace Runner

/-! ## Scripts in scripts -/

/-- Runs the commands of a text line by line; `line` is the number of the first line, and
`verbose` tells what to do with the text of the lines that were read. -/
def runText (runner : Runner) (tested : Bool) (verbose : String → Act Unit) :
    Nat → Int → Nat → List Char → Act Int
  | 0, status, _, _ => return status
  | fuel + 1, status, line, text => do
    let (result, reader) := Reading.line.run (Reader.start text line (← get).freshDocument
      (← get).aliases)
    modify fun session => { session with
      documents := reader.documents ++ session.documents
      freshDocument := reader.fresh
      lineRead := reader.line }
    let read := text.length - reader.text.length
    match result with
    | .error misread =>
      let rest := text.drop read
      let ending := if rest.contains '\n' then ['\n'] else []
      verbose (String.ofList (text.take read ++ rest.takeWhile (· != '\n') ++ ending))
      modify fun session => { session with line := misread.line }
      Act.fail s!"Syntax error: {misread.message}"
    | .ok command =>
      verbose (String.ofList (text.take read))
      let status ← match command with
        | some command => runner.run tested command
        | none => pure status
      if reader.last == .endOfFile then return status
      runText runner tested verbose fuel status reader.line reader.text

def runScript (runner : Runner) (tested : Bool) (text : String) : Act Int :=
  runner.runText tested (fun _ => return ()) (text.length + 2) 0 1 text.toList

/-- The status in which a script ends that ended in some way, once the action for its end was
run. -/
def conclude (runner : Runner) (result : Except Jump Int) : Act Int := do
  let status ← match result with
    | .ok status => pure status
    | .error (.exit status) => pure status
    | .error (.return_ status) => pure status
    | .error (.fault status) => pure status
    | .error (.killed signal) => throw (.killed signal)
    | .error .outOfTime => throw .outOfTime
    | .error _ => pure (← get).status
  match (← get).traps.lookup "EXIT" with
  | none => return status % 256
  | some action =>
    modify fun session => { session with
      traps := session.traps.filter (·.1 != "EXIT")
      status := status
      command := none }
    match ← Act.attempt (runner.runScript false action) with
    | .error (.exit status) => return status % 256
    | .error (.fault status) => return status
    | .error (.killed signal) => throw (.killed signal)
    | .error .outOfTime => throw .outOfTime
    | _ => return status % 256

end Runner
end JavaStubs.Shell

namespace JavaStubs.Shell
namespace Runner

/-! ## Times -/

/-- The microseconds that a program of a name sleeps. -/
def sleepOf (name : String) (arguments : List String) : Nat :=
  if Text.afterLast '/' name.toList == "sleep".toList then
    (arguments.map Host.spanOf).foldl (· + ·) 0
  else 0

/-- The text of a word in which nothing is expanded. -/
def literal? (word : Word) : Option String :=
  let textOf? : Part → Option String
    | .text chars _ => some chars
    | .quotes => some ""
    | _ => none
  (word.mapM textOf?).map String.join

/-- How long a command sleeps before it does anything, and whether it does nothing else. -/
def leadOf : Command → Nat × Bool
  | .simple _ [] words _ =>
    match words.mapM literal? with
    | some ("sleep" :: arguments) => (sleepOf "sleep" arguments, true)
    | _ => (0, false)
  | .sequence first second =>
    let (time, sleeps) := leadOf first
    if sleeps then
      let (more, sleeps) := leadOf second
      (time + more, sleeps)
    else (time, false)
  | .both first _ => ((leadOf first).1, false)
  | .either first _ => ((leadOf first).1, false)
  | .subshell _ command => leadOf command
  | .redirected _ command _ => leadOf command
  | _ => (0, false)

/-! ## Running what waits -/

/-- What is said of a program that a signal ended. -/
def ending (signal : Nat) : Option String :=
  match signal with
  | 2 => none
  | 13 => none
  | 1 => some "Hangup"
  | 3 => some "Quit"
  | 4 => some "Illegal instruction"
  | 5 => some "Trace/breakpoint trap"
  | 6 => some "Aborted"
  | 7 => some "Bus error"
  | 8 => some "Floating point exception"
  | 9 => some "Killed"
  | 10 => some "User defined signal 1"
  | 11 => some "Segmentation fault"
  | 12 => some "User defined signal 2"
  | 14 => some "Alarm clock"
  | 15 => some "Terminated"
  | 16 => some "Stack fault"
  | 24 => some "CPU time limit exceeded"
  | 25 => some "File size limit exceeded"
  | 26 => some "Virtual timer expired"
  | 27 => some "Profiling timer expired"
  | 29 => some "I/O possible"
  | 30 => some "Power failure"
  | 31 => some "Bad system call"
  | n => some s!"Signal {n}"

/-- Notes how far a command in the background has come. -/
def setJob (number : Nat) (state : JobState) : Act Unit :=
  modify fun session => { session with
    jobStates := session.jobStates.map fun (other, old) =>
      (other, if other == number then state else old) }

/-- The command of a subshell that does nothing else. -/
def bodyOf : Command → Command
  | .subshell _ command => command
  | command => command

/-- Runs a command in the background that waits, up to a time. What would go on beyond it is left to
wait, or is ended there by a signal. -/
def runJob (runner : Runner) (number : Nat) (limit : Option Nat) (signal : Option Nat) :
    Act Unit := do
  let before ← get
  let some (.waiting started _ command scope disk) := before.jobStates.lookup number | return
  setJob number .running
  modify fun session => { session with
    toScope := scope
    disk := disk.leftBy session.disk
    clock := started
    limit }
  let result ← Act.attempt (do
    runner.conclude (← Act.attempt (runner.run false (bodyOf command))))
  let time := (← get).clock
  let leave (state : JobState) : Act Unit := do
    modify fun inner => { before.after inner with clock := before.clock, limit := before.limit }
    setJob number state
  match result, signal with
  | .ok status, _ => leave (.ended status time false)
  | .error .outOfTime, none =>
    set before
    setJob number (.waiting started time command scope disk)
  | .error .outOfTime, some signal =>
    match (← get).traps.lookup (Builtin.signalName signal) with
    | none => leave (.ended (-(signal : Int)) time false)
    | some "" =>
      set before
      setJob number (.waiting started time command scope disk)
    | some action =>
      let result ← Act.attempt (do
        runner.conclude (← Act.attempt (runner.runScript false action)))
      leave (.ended (result.toOption.getD (-(signal : Int))) time false)
  | .error jump, _ =>
    leave (.ended 0 time false)
    throw jump

/-- The commands that wait, with the times at which they are ready, the first one first. -/
def waitingJobs : Act (List (Nat × Nat)) := do
  let waiting := (← get).jobStates.filterMap fun (number, state) =>
    match state with
    | .waiting _ ready _ _ _ => some (number, ready)
    | _ => none
  return waiting.reverse.mergeSort fun a b => a.2 ≤ b.2

/-- The number of commands in the background that are followed. -/
def jobRounds : Nat := 10000

/-- Runs those of the commands that wait of which a condition on the number and the time holds, the
first one first; `limit` is the time that they have. -/
def runJobs (runner : Runner) (limit : Option Nat) (condition : Nat → Nat → Act Bool) :
    Nat → Act Unit
  | 0 => return
  | rounds + 1 => do
    match ← (← waitingJobs).filterM fun (number, ready) => condition number ready with
    | [] => return
    | (number, _) :: _ =>
      runner.runJob number limit none
      runner.runJobs limit condition rounds

/-- Runs what waits and is ready at a time. -/
def giveWay (runner : Runner) (time : Nat) : Act Unit :=
  runner.runJobs (some time) (fun _ ready => return ready ≤ time) jobRounds

def finishJobs (runner : Runner) : Act Unit := runner.runJobs none (fun _ _ => return true) jobRounds

/-- Runs all that waits and prints to a channel. -/
def finishJobsOn (runner : Runner) (channel : Nat) : Act Unit :=
  runner.runJobs none (fun number _ => do
    match (← get).jobStates.lookup number with
    | some (.waiting _ _ _ scope _) => return scope.streams.any (·.2 == channel)
    | _ => return false) jobRounds

/-- Sleeps for a time, in which what waits may run. -/
def rest (runner : Runner) (time : Nat) : Act Unit := do
  let session ← get
  let awake := session.clock + time
  if session.limit.any (· < awake) then
    set { session with clock := awake }
    throw .outOfTime
  runner.giveWay awake
  modify fun session => { session with
    clock := awake
    jobStates := session.jobStates.map fun (number, state) => (number, match state with
      | .ended status time _ => .ended status time true
      | state => state) }

/-! ## Subshells -/

/-- Runs a part in a subshell, and gives the status in which it ends. -/
def subshell (runner : Runner) (part : Act Int) : Act Int := do
  let before ← get
  set before.inner
  let result ← Act.attempt (do runner.conclude (← Act.attempt part))
  modify fun inner => before.after inner
  Act.resume result

/-- What a script prints. -/
def outputOf (runner : Runner) (script : Option Command) : Act String := do
  let channel ← Act.newChannel (.capture [])
  let status ← runner.subshell do
    Act.connect 1 (some channel)
    match script with
    | some command => runner.run false command
    | none => return 0
  runner.finishJobsOn channel
  modify fun session => { session with outputStatus := status }
  match (← get).channels.lookup channel with
  | some (.capture texts) => return String.join texts.reverse
  | _ => return ""

/-! ## Builtin commands -/

/-- The first place that is free among those of commands in the background. -/
def freePlace (jobs : List (Nat × Nat)) : Nat :=
  ((List.range (jobs.length + 1)).find? fun n => !jobs.any (·.2 == n + 1)).getD 0 + 1

/-- Runs a command in the background. -/
def background (command : Command) : Act Int := do
  let input ← Act.newChannel .nothing
  let session ← get
  let scope := session.inner.toScope
  let scope := { scope with streams := (0, input) :: scope.streams.filter (·.1 != 0) }
  let state : JobState :=
    .waiting session.clock (session.clock + (leadOf command).1) command scope session.disk
  set { session with
    fresh := session.fresh + 1
    jobStates := (session.fresh, state) :: session.jobStates
    jobs := (session.fresh, freePlace session.jobs) :: session.jobs
    lastJob := some session.fresh }
  return 0

/-- Waits for a command in the background, and gives its status. -/
def await (runner : Runner) (number : Nat) : Act Int := do
  if !(← get).jobs.any (·.1 == number) then return 127
  let turn : Option Nat := ((← waitingJobs).find? (·.1 == number)).map Prod.snd
  if let some turn := turn then
    runner.runJobs none (fun other ready => do
      match (← get).jobStates.lookup number with
      | some (.waiting _ _ _ _ _) => return ready < turn || (ready == turn && other ≤ number)
      | _ => return false) jobRounds
  match (← get).jobStates.lookup number with
  | some (.ended status time known) =>
    modify fun session => { session with clock := max session.clock time }
    setJob number (.ended status time true)
    if 0 ≤ status then return status
    if !known then
      if let some message := ending status.natAbs then
        let _ ← Act.print 2 (message ++ "\n")
    return 128 + (status.natAbs : Int)
  | _ => return 0

/-- The number of a command in the background that an argument names. -/
def jobOf (text : String) : Act Nat := do
  match text.toList with
  | '%' :: digits =>
    let jobs := (← get).jobs
    match (String.ofList digits).toNat?.bind fun place => jobs.find? (·.2 == place) with
    | some (number, _) => return number
    | none => Act.fail s!"No such job: {text}"
  | _ => Builtin.numberOf text

/-- Waits for commands in the background. -/
def wait (runner : Runner) (arguments : List String) : Act Int := do
  let given ← Builtin.withOptions "" "" arguments
  let states ← given.operands.mapM fun text => do runner.await (← jobOf text)
  if given.operands.isEmpty then
    runner.runJobs none (fun _ _ => do
      let session ← get
      return session.jobStates.any fun (number, state) => session.jobs.any (·.1 == number) &&
        match state with
        | .waiting _ _ _ _ _ => true
        | _ => false) jobRounds
    modify fun session => { session with
      clock := session.jobStates.foldl (fun clock (number, state) =>
        match state, session.jobs.any (·.1 == number) with
        | .ended _ time _, true => max clock time
        | _, _ => clock) session.clock
      jobStates := session.jobStates.map fun (number, state) => (number, match state with
        | .ended status time _ => .ended status time true
        | state => state) }
  return (states.getLast?).getD 0

/-- Tells how far commands in the background have come, the latest first; what has ended is forgotten
then. -/
def showJobs (runner : Runner) (_ : List String) : Act Int := do
  runner.giveWay (← get).clock
  let session ← get
  let lines := session.jobs.zipIdx.map fun ((number, place), age) =>
    let mark := if age = 0 then "+" else if age = 1 then "-" else " "
    let state := match session.jobStates.lookup number with
      | some (.ended status _ _) =>
        if status = 0 then "Done" else if 0 < status then s!"Done({status})"
        else (ending status.natAbs).getD ""
      | _ => "Running"
    let line := s!"[{place}] {mark} {state}"
    line ++ Text.repeated " " (33 - line.length) ++ "\n"
  lines.forM Act.say
  set { session with
    buffer := (← get).buffer
    jobs := session.jobs.filter fun (number, _) =>
      match session.jobStates.lookup number with
      | some (.ended ..) => false
      | _ => true }
  return 0

/-- Sends a signal to a command in the background, and tells whether there is such a command. -/
def sendToJob (runner : Runner) (signal number : Nat) : Act Bool := do
  match (← get).jobStates.lookup number with
  | some (.waiting started _ _ _ _) =>
    if !Builtin.idleSignals.contains signal && !Builtin.haltSignals.contains signal then
      let clock := (← get).clock
      if started < clock then runner.runJob number (some clock) (some signal)
      else setJob number (.ended (-(signal : Int)) clock false)
    return true
  | some .running => return true
  | some (.ended _ _ known) => return !known
  | none => return false

end Runner
end JavaStubs.Shell

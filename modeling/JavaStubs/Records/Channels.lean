import JavaStubs.Records.Machine

/-!
The inputs and outputs of scripts that work on records: files, commands, the input that the script was
called with, and the output. What is printed to the output is passed on when a command is run, and at the
end.
-/
namespace JavaStubs.Records

open Host (Call Finish Piece Work)

namespace Act

/-! ## Outputs -/

def flush : Act Unit := do
  let machine ← get
  if !machine.buffer.isEmpty then
    set { machine with buffer := [] }
    liftM (Work.say (String.join machine.buffer.reverse))

/-- Runs a command; it has the input, or a text of its own. -/
def runCommand (command : String) (input : Option String) : Act (Option Finish) := do
  let machine ← get
  let working ← working
  let call : Call :=
    { name := "/bin/sh"
      arguments := ["-c", command]
      environment := working.call.environment
      input := input.getD working.input
      origin := if input.isSome then .stream else working.call.origin }
  match machine.start "/bin/sh" call working.disk with
  | .error _ => return none
  | .ok finish =>
    modifyWorking fun working => { working with
      disk := working.disk.leftBy finish.disk
      input := if input.isSome then working.input else finish.rest }
    return some finish

/-- The code of a run; that of a signal lies behind all others. -/
def codeOf (finish : Finish) : Int :=
  if finish.code < 0 then 256 + finish.code.natAbs else finish.code % 256

/-- Passes on all that a run printed. -/
def passOn (finish : Finish) : Act Unit :=
  modifyWorking fun working =>
    { working with printed := finish.printed.reverse ++ working.printed }

/-- Runs a command, and tells its code. -/
def runShown (command : String) (input : Option String) : Act Int := do
  match ← runCommand command input with
  | none => return 127
  | some finish =>
    passOn finish
    return codeOf finish

/-- Runs a command, and tells what it printed to its output, and its code. -/
def runRead (command : String) : Act (String × Int) := do
  flush
  match ← runCommand command none with
  | none => return ("", 127)
  | some finish =>
    let texts := finish.printed.filterMap fun
      | .out text => some text
      | .err _ => none
    let errors := finish.printed.filter fun piece => piece matches .err _
    passOn { finish with printed := errors }
    return (String.join texts, codeOf finish)

/-- Where a text is printed to. -/
inductive Target where
  | replace (name : String)
  | append (name : String)
  | command (command : String)

/-- Adds an output in front of the others. -/
def addOutput (output : Output) : Act Unit :=
  modify fun machine => { machine with outputs := output :: machine.outputs }

/-- Prints a text to the file of a name, which is opened if it is not open. -/
def printToFile (name text : String) (appends : Bool) : Act Unit := do
  if name == "/dev/stdout" || name == "-" then
    modify fun machine => { machine with buffer := text :: machine.buffer }
  else if name == "/dev/stderr" then liftM (Work.sayError text)
  else
    let isOpen := (← get).outputs.any fun output => output.name == name && !output.isCommand
    let result ← liftM (Work.writeText name text (isOpen || appends))
    match result with
    | .error cause =>
      throw (.fault s!"cannot open \"{name}\" for output ({cause.wording})")
    | .ok () => if !isOpen then addOutput { name, isCommand := false }

/-- Prints a text. -/
def print (target : Option Target) (text : String) : Act Unit := do
  match target with
  | none => modify fun machine => { machine with buffer := text :: machine.buffer }
  | some (.replace name) => printToFile name text false
  | some (.append name) => printToFile name text true
  | some (.command command) =>
    let (found, others) := (← get).outputs.partition fun output =>
      output.name == command && output.isCommand
    if found.isEmpty then flush
    let pending := (found.map Output.pending).flatten
    modify fun machine =>
      { machine with
        outputs := { name := command, isCommand := true, pending := text :: pending } :: others }

/-- Closes an output, and tells its code. -/
def closeOutput (output : Output) : Act Int := do
  if output.isCommand then runShown output.name (some (String.join output.pending.reverse))
  else return 0

/-- Closes what has a name, and tells its code, if there is such. -/
def close (name : String) : Act Int := do
  let machine ← get
  let (outputs, otherOutputs) := machine.outputs.partition (·.name == name)
  let (sources, otherSources) := machine.sources.partition (·.name == name)
  set { machine with outputs := otherOutputs, sources := otherSources }
  let codes ← outputs.mapM closeOutput
  return ((codes ++ sources.map Source.code).getLast?).getD (-1)

def closeAll : Act Unit := do
  let outputs := (← get).outputs
  modify fun machine => { machine with outputs := [] }
  if outputs.any Output.isCommand then
    outputs.forM fun output => do
      let _ ← closeOutput output
  flush

/-! ## Other inputs -/

/-- The next record of a source, which is opened if it is not open; nothing at its end, and a fault if it
cannot be opened. -/
def readSource (name : String) (isCommand : Bool) : Act (Except OsCause (Option String)) := do
  let machine ← get
  let (found, others) := machine.sources.partition fun source =>
    source.name == name && source.isCommand == isCommand
  let opened : Except OsCause Source ← match found with
    | source :: _ => pure (.ok source)
    | [] => do
      if isCommand then
        let (text, code) ← runRead name
        pure (.ok { name, isCommand, rest := text.toList, code })
      else
        match ← liftM (Work.textOf name) with
        | .ok text => pure (.ok { name, isCommand, rest := text.toList })
        | .error cause => pure (.error cause)
  match opened with
  | .error cause => return .error cause
  | .ok source =>
    let cut := (← recordEnd).cut source.rest
    let rest := (cut.map Prod.snd).getD []
    modify fun machine => { machine with sources := { source with rest } :: others }
    return .ok (cut.map fun (found, _) => String.ofList found)

/-! ## The input -/

/-- Whether an argument sets a variable: its name, and its value. -/
def settingOf (argument : String) : Option (String × String) :=
  let chars := argument.toList
  let name := chars.takeWhile isNameChar
  match chars.drop name.length, name with
  | '=' :: value, c :: _ =>
    if c.isDigit then none else some (String.ofList name, unescaped (String.ofList value))
  | _, _ => none

/-- Sets a variable as an argument says. -/
def setByArgument (name value : String) : Act Unit :=
  setVariable (.shared name) (.input value)

/-- Opens a file of the input. -/
def openInput (name : String) : Act Unit := do
  match ← liftM (Work.textOf name) with
  | .error cause =>
    throw (.fault s!"cannot open {name} ({cause.wording})")
  | .ok text =>
    setShared "FILENAME" (.input name)
    setShared "FNR" (.ofNat 0)
    modify fun machine =>
      { machine with input := { machine.input with rest := some text.toList, hasFile := true } }

/-- Opens the next file of the input, and tells whether there is one; `fuel` is more than the number of
arguments left. -/
def openNext : Nat → Act Bool
  | 0 => return false
  | fuel + 1 => do
    let input := (← get).input
    let count := wholeOf (← sharedValue "ARGC").toNumber
    if count ≤ input.place then
      if input.hasFile then return false
      openInput "-"
      return true
    let number ← tableOf (.shared "ARGV")
    let arguments ← table number
    let key : Key := .whole input.place
    let argument ← if arguments.contains key then textOf (arguments.valueOf key) else pure ""
    modify fun machine => { machine with input := { machine.input with place := input.place + 1 } }
    if argument.isEmpty then openNext fuel
    else match settingOf argument with
      | some (name, value) => do
        setByArgument name value
        openNext fuel
      | none => do
        openInput argument
        return true

def countUp (name : String) : Act Unit := do
  let value ← sharedValue name
  setShared name (.number (value.toNumber.add (Binary64.ofNat 1)))

/-- The next record of the input; `fuel` is more than the number of files left. -/
def readInputFrom : Nat → Act (Option String)
  | 0 => return none
  | fuel + 1 => do
    match (← get).input.rest with
    | some text =>
      match (← recordEnd).cut text with
      | some (found, rest) => do
        modify fun machine => { machine with input := { machine.input with rest := some rest } }
        countUp "NR"
        countUp "FNR"
        return some (String.ofList found)
      | none => do
        modify fun machine => { machine with input := { machine.input with rest := none } }
        readInputFrom fuel
    | none => do
      let count := (wholeOf (← sharedValue "ARGC").toNumber).toNat
      if ← openNext (count + 2) then readInputFrom fuel else return none

def readInput : Act (Option String) := do
  let count := (wholeOf (← sharedValue "ARGC").toNumber).toNat
  readInputFrom (2 * count + 6)

/-- Leaves out the rest of the present file. -/
def leaveFile : Act Unit :=
  modify fun machine =>
    { machine with input := { machine.input with rest := machine.input.rest.map fun _ => [] } }

end Act
end JavaStubs.Records

import JavaStubs.Host.Places
import JavaStubs.Records.Evaluation
import JavaStubs.Records.ScriptReader

namespace JavaStubs.Records

open Host (Starter Work)

/-- How the program is called. -/
structure Calling where
  files : List String := []
  separator : Option String := none
  settings : List String := []
  operands : List String := []

/-- Why the program is not run. -/
inductive CallFault where
  | noValue (letter : Char)
  | unknown (argument : String)
  deriving DecidableEq, Repr

def CallFault.message : CallFault → String
  | .noValue letter => s!"option -{letter} lacks argument"
  | .unknown argument => s!"not an option: {argument}"

namespace Calling

/-- A calling with the value of an option. -/
def withValue (calling : Calling) (letter : Char) (value : String) : Calling :=
  match letter with
  | 'f' => { calling with files := calling.files ++ [value] }
  | 'F' => { calling with separator := some value }
  | _ => { calling with settings := calling.settings ++ [value] }

/-- The calling that arguments describe. -/
def read (calling : Calling) : List String → Except CallFault Calling
  | [] => .ok calling
  | argument :: rest =>
    match argument.toList with
    | ['-', '-'] => .ok { calling with operands := rest }
    | '-' :: letter :: value =>
      if ['f', 'F', 'v'].contains letter then
        match value, rest with
        | [], [] => .error (.noValue letter)
        | [], value :: rest => (calling.withValue letter value).read rest
        | value, rest => (calling.withValue letter (String.ofList value)).read rest
      else if letter == 'W' then
        match value, rest with
        | [], _ :: rest => calling.read rest
        | _, rest => calling.read rest
      else .error (.unknown argument)
    | _ => .ok { calling with operands := argument :: rest }

end Calling

/-- How deep parts of a script may run others. -/
def depth : Nat := 4000

/-- The variables that a script begins with. -/
def firstValues : List (String × Value) :=
  [("FS", .text " "), ("OFS", .text " "), ("ORS", .text "\n"), ("RS", .text "\n"),
    ("SUBSEP", .text "\x1c"), ("CONVFMT", .text "%.6g"), ("OFMT", .text "%.6g"), ("NR", .ofNat 0),
    ("FNR", .ofNat 0), ("RSTART", .ofNat 0), ("RLENGTH", .number (Binary64.ofInt (-1))),
    ("FILENAME", .text "")]

/-- Sets the variables that a script begins with. -/
def prepare (calling : Calling) (name : String) (operands : List String) : Act Unit := do
  firstValues.forM fun (name, value) => Act.setShared name value
  let environment := (← Act.working).call.environment
  let settings := environment.foldl (fun table (name, value) =>
    table.put (.text name) (.input value)) Table.empty
  Act.setSlot (.shared "ENVIRON") (.table (← Act.newTable settings))
  let arguments := (name :: operands).zipIdx.foldl (fun table (argument, place) =>
    table.put (.whole place) (.input argument)) Table.empty
  Act.setSlot (.shared "ARGV") (.table (← Act.newTable arguments))
  Act.setShared "ARGC" (.ofNat (operands.length + 1))
  if let some separator := calling.separator then
    Act.setShared "FS" (.text (unescaped separator))
  calling.settings.forM fun setting =>
    match Act.settingOf setting with
    | some (name, value) => Act.setByArgument name value
    | none => throw (.fault s!"improper assignment: -v {setting}")

/-- The text of a script in files. -/
def scriptText (files : List String) : Work (Except String String) := do
  let texts ← files.mapM fun file => do
    match ← Work.textOf file with
    | .ok text => return .ok text
    | .error cause => return Except.error s!"cannot open {file} ({cause.wording})"
  return (texts.mapM id).map fun texts => String.join (texts.map fun text =>
    if text.endsWith "\n" then text else text.push '\n')

/-- Runs a script on records. -/
def awk (start : Starter) : Work Unit := do
  let call := (← get).call
  let name := Host.lastPart call.name
  let refuse (message : String) : Work Unit := do
    Work.sayError s!"{name}: {message}\n"
    Work.fail 2
  match ({} : Calling).read call.arguments with
  | .error fault => refuse fault.message
  | .ok calling =>
    let text ← if calling.files.isEmpty
      then pure (.ok (calling.operands.head?.getD "")) else scriptText calling.files
    let operands := if calling.files.isEmpty then calling.operands.drop 1 else calling.operands
    match text with
    | .error message => refuse message
    | .ok text =>
      match Script.read text with
      | .error messages => messages.forM refuse
      | .ok script =>
        let functions := script.functions.foldl (fun known function =>
          known.insert function.name function) (∅ : Std.HashMap String Function)
        let work : Act Unit := do
          prepare calling call.name operands
          script.run (evaluator depth)
        let (result, machine) ← StateT.run (ExceptT.run work) { start, functions }
        match result with
        | .ok () => Work.fail machine.code
        | .error (.fault message) => refuse message
        | .error .tooDeep => refuse "function call nested too deeply"
        | .error _ => Work.fail machine.code
        let _ ← StateT.run (ExceptT.run Act.closeAll) machine

end JavaStubs.Records

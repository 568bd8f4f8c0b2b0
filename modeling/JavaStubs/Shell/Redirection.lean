import JavaStubs.Shell.Expansion

namespace JavaStubs.Shell

/-- A redirection whose words are expanded. -/
inductive Target where
  | file (stream : Nat) (mode : FileMode) (name : String)
  | duplicate (stream : Nat) (source : Option Nat)
  | document (stream number : Nat)

namespace Redirection

/-- Refuses what names no stream; this is noticed where reading has got to. -/
def noStream {α : Type} : Act α := do
  modify fun session => { session with line := session.lineRead }
  Act.fail "Syntax error: Bad fd number"

/-- Expands the words of a redirection. -/
def expanded (run : Option Command → Act String) : Redirection → Act Target
  | .file stream mode name => return .file stream mode (← Expansion.text run .atStart name)
  | .document stream number => return .document stream number
  | .duplicate stream source => do
    match (← Expansion.text run .atStart source).toList with
    | ['-'] => return .duplicate stream none
    | [c] =>
      if c.isDigit then return .duplicate stream (some (c.toNat - '0'.toNat))
      else noStream
    | _ => noStream

end Redirection

namespace Target

/-- The stream that a file name stands for. -/
def streamOf? (name : String) : Option Nat :=
  match name with
  | "/dev/stdin" => some 0
  | "/dev/stdout" => some 1
  | "/dev/stderr" => some 2
  | name =>
    match Text.pastStart? "/dev/fd/".toList name.toList with
    | some [c] => if c.isDigit then some (c.toNat - '0'.toNat) else none
    | _ => none

/-- What the shell says about a file that cannot be opened. -/
def wording (missing : String) : OsCause → String
  | .notFound => missing
  | .notDirectory => missing
  | cause => cause.wording

/-- The channel of a file to be read. -/
def openInput (name : String) : Act (Except String Channel) := do
  let missing := "No such file"
  let refused (cause : OsCause) : Except String Channel :=
    .error s!"cannot open {name}: {wording missing cause}"
  match (← get).disk.follow .look (Octets.toText name) with
  | .error cause => return refused cause
  | .ok (.vacant _) => return refused .notFound
  | .ok (.entry location entry) =>
    if !(← get).disk.grants .read location then return refused .denied
    match entry with
    | .file content =>
      let text := String.ofList (Octets.ofBytes content.toBytes.toList)
      return .ok (.source text (.file text.length))
    | .sink => return .ok .nothing
    | .directory => return .ok (.source "" .directory)
    | _ => return .ok (.source "" .stream)

/-- The channel of a file to be written. -/
def openOutput (mode : FileMode) (name : String) : Act (Except String Channel) := do
  let missing := "Directory nonexistent"
  let refused (cause : OsCause) : Except String Channel :=
    .error s!"cannot create {name}: {wording missing cause}"
  let keeps := (← Act.hasOption 'C') && mode = .output
  match (← get).disk.follow .write (Octets.toText name) with
  | .error cause => return refused cause
  | .ok (.entry _ .directory) => return refused .isDirectory
  | .ok (.entry _ .program) => return refused Disk.textBusy
  | .ok (.entry _ .sink) => return .ok .nothing
  | .ok (.entry _ (.link _)) => return refused .tooManyLinks
  | .ok (.entry location (.file content)) =>
    if keeps then return refused .alreadyExists
    match mode with
    | .append => return .ok (.file location none)
    | .both =>
      let text := String.ofList (Octets.ofBytes content.toBytes.toList)
      return .ok (.source text (.file text.length))
    | _ =>
      modify fun session =>
        { session with disk := ((Disk.putFile location (.raw .empty)).run session.disk).2 }
      return .ok (.file location (some 0))
  | .ok (.vacant location) =>
    modify fun session =>
      { session with disk := ((Disk.putFile location (.raw .empty)).run session.disk).2 }
    return .ok (.file location (if mode = .append then none else some 0))

/-- Makes a redirection; a message tells that it fails. -/
def connect (run : Option Command → Act String) : Target → Act (Option String)
  | .file stream mode name => do
    match streamOf? name with
    | some source =>
      Act.connect stream ((← get).streams.lookup source)
      return none
    | none =>
      match ← if mode = .input then openInput name else openOutput mode name with
      | .error message => return some message
      | .ok channel =>
        Act.connect stream (some (← Act.newChannel channel))
        return none
  | .duplicate stream none => do
    Act.connect stream none
    return none
  | .duplicate stream (some source) => do
    match (← get).streams.lookup source with
    | some channel =>
      Act.connect stream (some channel)
      return none
    | none =>
      if stream = 2 then Act.connect stream none
      return some s!"{source}: Bad file descriptor"
  | .document stream number => do
    let word := ((← get).documents.lookup number).getD []
    let text ← Expansion.text run .nowhere word
    Act.connect stream (some (← Act.newChannel (.source text .stream)))
    return none

end Target

namespace Redirection

/-- Makes redirections, and tells whether all could be made. -/
def make (run : Option Command → Act String) (redirections : List Redirection) : Act Bool := do
  let targets ← redirections.mapM (expanded run)
  let rec connectAll : List Target → Act Bool
    | [] => return true
    | target :: rest => do
      match ← Act.attempt (target.connect run) with
      | .ok none => connectAll rest
      | .ok (some message) =>
        Act.report message
        return false
      | .error (.fault _) => return false
      | .error jump => throw jump
  connectAll targets

end Redirection
end JavaStubs.Shell

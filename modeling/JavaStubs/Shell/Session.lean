import JavaStubs.Shell.Grammar
import JavaStubs.Host.Inputs

/-!
What a running script works on: its variables, functions and options, and its streams. Each numbered
stream of a command leads to a channel, which several streams may share. A subshell has a scope of
its own, and shares the channels, the disk and the commands in the background with the others.
-/
namespace JavaStubs.Shell

open Host (Piece Origin)

/-- Where a stream leads. -/
inductive Channel where
  /-- The output that the shell was called with. -/
  | output
  /-- The error output that the shell was called with. -/
  | errors
  /-- A text to be read, and what it comes from. -/
  | source (text : String) (origin : Origin)
  /-- Texts that are kept to be read later, the latest first. -/
  | capture (texts : List String)
  /-- A file that is written to at a place, or at its end. -/
  | file (location : Location) (place : Option Nat)
  | nothing
  deriving DecidableEq, Repr

/-- A variable; it may have marks without having a value. -/
structure Variable where
  value : Option String
  isExported : Bool
  isReadOnly : Bool
  deriving DecidableEq, Repr

/-- Why commands are left before their end. -/
inductive Jump where
  /-- A number of loops are left. -/
  | break_ (loops : Nat)
  /-- All but the outermost of a number of loops are left, and that one goes on. -/
  | continue_ (loops : Nat)
  | return_ (status : Int)
  | exit (status : Int)
  /-- An error was reported that a script does not survive. -/
  | fault (status : Int)
  /-- A signal ends the shell. -/
  | killed (signal : Nat)
  /-- A command in the background has come to the end of its time. -/
  | outOfTime
  deriving DecidableEq, Repr

/-- How far the options of arguments were taken: the number of the argument to take next, counted
from one, and, when the one in front of it holds more letters, how many characters of that were
taken. -/
structure OptionPlace where
  next : Nat
  taken : Option Nat
  deriving DecidableEq, Repr

/-- The place at which no option was taken yet. -/
def OptionPlace.start : OptionPlace := ⟨1, none⟩

/-- What a shell and its subshells have each for themselves. -/
structure Scope where
  name : String
  arguments : List String
  bindings : List (String × Variable)
  functions : List (String × Command)
  aliases : List (String × String)
  options : List Char
  /-- The channels of the streams. -/
  streams : List (Nat × Nat)
  status : Int
  /-- The status of the last script whose output took part in a word. -/
  outputStatus : Int
  line : Nat
  /-- The line that was read last. -/
  lineRead : Nat
  /-- The builtin command that runs. -/
  command : Option String
  /-- What the builtin command that runs is going to print, the latest text first. -/
  buffer : List String
  traps : List (String × String)
  /-- The traps of the shell itself, for a subshell. -/
  outerTraps : List (String × String)
  loops : Nat
  /-- What the local variables of the functions that run were outside, the innermost first. -/
  locals : List (List (String × Option Variable))
  isSubshell : Bool
  /-- The numbers of the commands that were started in the background, and the places that they have
  in the list of those, the latest first. -/
  jobs : List (Nat × Nat)
  lastJob : Option Nat
  optionPlace : OptionPlace

/-- How far a command in the background has come. -/
inductive JobState where
  /-- It waits for the shell to give way: it was started at a time in a scope, in the directory and
  with the mask of a disk, and does nothing until a later time. -/
  | waiting (started ready : Nat) (command : Command) (scope : Scope) (disk : Disk)
  | running
  /-- It has ended at a time, with a negative status if a signal ended it; `known` says that the shell
  has noticed. -/
  | ended (status : Int) (time : Nat) (known : Bool)

/-- Where a script stands. -/
structure Session extends Scope where
  disk : Disk
  channels : List (Nat × Channel)
  /-- The number of the next channel. -/
  fresh : Nat
  /-- What was printed to the streams that the shell was called with, the latest piece first. -/
  printed : List Piece
  /-- The documents of redirections, and the number of the next one. -/
  documents : List (Nat × Word)
  freshDocument : Nat
  /-- The signals that came and were not handled, the latest first. -/
  signals : List Nat
  /-- The commands that were started in the background, the latest first. -/
  jobStates : List (Nat × JobState)
  /-- The microseconds that commands have slept. -/
  clock : Nat
  /-- The time up to which a command in the background may run now. -/
  limit : Option Nat

/-- A part of a script's run. -/
abbrev Act := ExceptT Jump (StateM Session)

namespace Session

/-- The session of a script inside of which another one has ended in a session: what they share is
as it is then. -/
def after (session inner : Session) : Session :=
  { inner with toScope := session.toScope, disk := session.disk.leftBy inner.disk }

/-- The session of a subshell that begins. -/
def inner (session : Session) : Session := { session with
  outerTraps := if session.isSubshell then session.outerTraps else session.traps
  traps := session.traps.filter (·.2.isEmpty)
  isSubshell := true
  jobs := []
  buffer := [] }

end Session

namespace Act

/-- Runs a part and tells how it ended. -/
def attempt {α : Type} (part : Act α) : Act (Except Jump α) :=
  ExceptT.mk fun session =>
    match part.run session with
    | (result, session) => (.ok result, session)

def resume {α : Type} : Except Jump α → Act α
  | .ok result => return result
  | .error jump => throw jump

/-- Runs a part and changes the session behind it, however the part ended. -/
def andThen {α : Type} (part : Act α) (change : Session → Session) : Act α := do
  let result ← attempt part
  modify change
  resume result

/-! ## Streams -/

/-- The channel of a stream, with its number. -/
def channel? (stream : Nat) : Act (Option (Nat × Channel)) := do
  let session ← get
  return (session.streams.lookup stream).bind fun number =>
    (session.channels.lookup number).map (number, ·)

def setChannel (number : Nat) (channel : Channel) : Act Unit :=
  modify fun session => { session with
    channels := (number, channel) :: session.channels.filter (·.1 != number) }

/-- Makes a channel, and tells its number. -/
def newChannel (channel : Channel) : Act Nat :=
  modifyGet fun session => (session.fresh, { session with
    channels := (session.fresh, channel) :: session.channels
    fresh := session.fresh + 1 })

/-- Leads a stream to a channel, or closes it. -/
def connect (stream : Nat) (channel : Option Nat) : Act Unit :=
  modify fun session =>
    let others := session.streams.filter (·.1 != stream)
    { session with streams := match channel with
        | some channel => (stream, channel) :: others
        | none => others }

/-- Bytes with others written over them from a place on. -/
def overwritten (bytes new : ByteArray) (place : Nat) : ByteArray :=
  let gap : ByteArray := ⟨Array.replicate (place - bytes.size) 0⟩
  bytes.extract 0 place ++ gap ++ new ++ bytes.extract (place + new.size) bytes.size

/-- Prints to a channel, and tells whether it can be printed to. -/
def printTo (number : Nat) (text : String) : Act Bool := do
  match (← get).channels.lookup number with
  | some .output =>
    modify fun session => { session with printed := .out text :: session.printed }
    return true
  | some .errors =>
    modify fun session => { session with printed := .err text :: session.printed }
    return true
  | some (.capture texts) =>
    setChannel number (.capture (text :: texts))
    return true
  | some (.file location place) =>
    let new : ByteArray := ⟨(Octets.toBytes text.toList).toArray⟩
    modify fun session =>
      let old := match session.disk.tree.get? location with
        | some (.file content) => content.toBytes
        | _ => .empty
      let written := overwritten old new (place.getD old.size)
      let (_, disk) := (Disk.putFile location (.raw written)).run session.disk
      { session with disk := disk }
    if let some place := place then setChannel number (.file location (some (place + new.size)))
    return true
  | some .nothing => return true
  | _ => return false

/-- Prints to a stream, and tells whether it can be printed to. -/
def print (stream : Nat) (text : String) : Act Bool := do
  match (← get).streams.lookup stream with
  | some number => printTo number text
  | none => return false

/-- What there is to be read from a stream, all of it, with what it comes from. -/
def readable (stream : Nat) : Act (Option (String × Origin)) := do
  match ← channel? stream with
  | some (_, .source text origin) => return some (text, origin)
  | some (_, .nothing) => return some ("", .stream)
  | _ => return none

/-- Leaves only some text to be read from a stream. -/
def leave (stream : Nat) (text : String) : Act Unit := do
  match ← channel? stream with
  | some (number, .source _ origin) => setChannel number (.source text origin)
  | _ => return

/-! ## Messages -/

/-- Prints from a builtin command, when it has ended. -/
def say (text : String) : Act Unit :=
  modify fun session => { session with buffer := text :: session.buffer }

def report (message : String) : Act Unit := do
  let session ← get
  let source := match session.command with
    | some command => command ++ ": "
    | none => ""
  let _ ← print 2 s!"{session.name}: {session.line}: {source}{message}\n"

/-- Reports an error that a script does not survive. -/
def fail {α : Type} (message : String) : Act α := do
  report message
  throw (.fault 2)

/-- The letters of options, in the order in which they are told. -/
def hasOption (letter : Char) : Act Bool := return (← get).options.contains letter

/-! ## Variables -/

def valueOf? (name : String) : Act (Option String) :=
  return ((← get).bindings.lookup name).bind Variable.value

def withVariable (name : String) (new : Option Variable) (bindings : List (String × Variable)) :
    List (String × Variable) :=
  match new with
  | none => bindings.filter (·.1 != name)
  | some new =>
    if bindings.any (·.1 == name) then
      bindings.map fun (key, old) => (key, if key == name then new else old)
    else bindings ++ [(name, new)]

/-- Puts a variable back to what it was. -/
def putVariable (name : String) (old : Option Variable) : Act Unit :=
  modify fun session => { session with bindings := withVariable name old session.bindings }

/-- Gives a variable a value. -/
def setVariable (name value : String) : Act Unit := do
  let session ← get
  let old := (session.bindings.lookup name).getD ⟨none, false, false⟩
  if old.isReadOnly then fail s!"{name}: is read only"
  if name == "OPTIND" then
    match value.toNat?.filter fun n => n < Nat.pow 2 31 && value.toList.all Char.isDigit with
    | some number => modify fun session => { session with optionPlace := ⟨max number 1, none⟩ }
    | none => fail s!"Illegal number: {value}"
  let exported := old.isExported || session.options.contains 'a'
  putVariable name (some ⟨some value, exported, false⟩)

/-- Gives a variable a value, if it can have the name. -/
def assign (name value : String) : Act Unit := do
  let name := String.ofList (name.toList.takeWhile (· != '='))
  if !isName name then fail s!"{name}: bad variable name"
  setVariable name value

/-- The number of groups that variables are told in. -/
def groups : Nat := 39

def groupOf (name : String) : Nat :=
  let chars := name.toList
  ((chars.head?.map Char.toNat).getD 0 * 16 + (chars.map Char.toNat).foldl (· + ·) 0) % groups

/-- The environment of programs, group by group. -/
def environment : Act Environment := do
  let exported := (← get).bindings.filterMap fun (name, held) =>
    if held.isExported then held.value.map (name, ·) else none
  return (List.range groups).flatMap fun group => exported.filter fun (name, _) =>
    groupOf name == group

def separators : Act (List Char) := do
  match ← valueOf? "IFS" with
  | some value => return value.toList
  | none => return [' ', '\t', '\n']

/-- The value of a special parameter, of an argument by its place, or of a variable. Places count
from the name on. -/
def parameter? (name : String) : Act (Option String) := do
  let session ← get
  match name with
  | "#" => return some (toString session.arguments.length)
  | "?" => return some (toString session.status)
  | "$" => return some "2"
  | "!" => return session.lastJob.map fun number => toString number
  | "-" =>
    let letters := "plubaCEVvxsnmiIfe".toList.filter session.options.contains
    return some (String.ofList letters)
  | name =>
    if name.toList.all Char.isDigit then
      let place := name.toNat?.getD 0
      return if place = 0 then some session.name else session.arguments[place - 1]?
    else valueOf? name

/-- Looks a word up as a program in the directories of the search path. -/
def searchPath : Act String := return (← valueOf? "PATH").getD ""

end Act
end JavaStubs.Shell

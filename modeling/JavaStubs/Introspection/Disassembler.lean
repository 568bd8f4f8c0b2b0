import JavaStubs.Introspection.Basic
import JavaStubs.Introspection.Hierarchy

/-!
Introspection of compiled types with a disassembler. The tool is run once for each type that its
description needs, and the listings it gives are kept for later descriptions. A type's code source
is the entry of the class path in which its class file lies.
-/
namespace JavaStubs

/-- A disassembler: its command, the class path it searches, what its runs with given arguments
end in, and the names among which all are that it can list. -/
structure Disassembler where
  command : String
  classpath : List Path
  run : List String → Except ToolFault Outcome
  names : List String

namespace Disassembler

/-- The part of the program that log records of the disassembler come from. -/
def source : String := "ports._javap"

/-- The arguments that name a class path, none if it is empty. -/
def classpathArguments (classpath : List Path) : List String :=
  if classpath.isEmpty then [] else ["-cp", Text.joined ":" (classpath.map Path.text)]

/-- The arguments of a run for a type. -/
def argumentsFor (command : String) (classpath : List Path) (name : String) : List String :=
  [command, "-v"] ++ classpathArguments classpath ++ [name]

/-- The arguments of a run for a type. -/
def arguments (tool : Disassembler) (name : String) : List String :=
  argumentsFor tool.command tool.classpath name

/-- The listing that the outcome of a run for a type gives. -/
def listingIn (name : String) (outcome : Outcome) : Except Refusal Listing :=
  if !outcome.ok then .error (.input (.cannotDescribe name outcome.detail))
  else match Listing.read outcome.stdout with
    | .error fault => .error (.header fault)
    | .ok listing =>
      if listing.name.isEmpty then .error (.input (.unrecognised name)) else .ok listing

/-- The listing that a run for a type gives. -/
def listingOf (tool : Disassembler) (name : String) : Except Refusal Listing :=
  match tool.run (tool.arguments name) with
  | .error (.refused (.os fault)) => .error (.input (.cannotRun tool.command fault))
  | .error fault => .error (.noOutcome fault)
  | .ok outcome => listingIn name outcome

def listings (tool : Disassembler) : Listings := Listings.among tool.names tool.listingOf

/-- Notes a run. -/
def noteRun (arguments : List String) : Job Unit := do
  Job.record .debug source ("running " ++ Text.joined " " arguments)
  Job.noteRun .disassembler arguments

def keep (name : String) (listing : Listing) : Job Unit :=
  modify fun world => { world with listings := world.listings ++ [(name, listing)] }

/-- Notes the runs for names that were asked for, in order. A name whose listing is kept needs no
run, and every listing that a run gives is kept. -/
def noteAsked (tool : Disassembler) : List String → Job Unit
  | [] => return
  | name :: rest => do
    if ((← get).listings.lookup name).isNone then
      noteRun (tool.arguments name)
      if let .ok listing := tool.listings.get name then keep name listing
    tool.noteAsked rest

/-- The name of the class file of a type below an entry of the class path. -/
def classFile (binaryName : String) : String :=
  Text.replaced (· == '.') '/' binaryName ++ ".class"

/-- Whether an entry of the class path holds a file: as a directory, or as an archive. -/
def holds (file : String) (entry : Path) : Job Bool := do
  match ← Job.onDisk (Disk.probe entry) with
  | some (_, .directory) => Job.onDisk (Disk.isFile (entry.child file))
  | some (_, .file content) =>
    return (← Job.ofExcept (content.entryNames.mapError .archive)).contains file
  | _ => return false

/-- The first entry of a class path that holds a file. -/
def firstHolding (file : String) : List Path → Job (Option Path)
  | [] => return none
  | entry :: rest => do if ← holds file entry then return entry else firstHolding file rest

/-- The entry of a class path that holds a type. -/
def locate (classpath : List Path) (binaryName : String) : Job (Option Path) :=
  firstHolding (classFile binaryName) classpath

/-- The fault that a refusal is. -/
def faultOf : Refusal → Fault
  | .input cause => .input cause
  | .header fault => .header fault
  | .noOutcome fault => fault.toFault

/-- The type that was found, with the entry of a class path that holds it. -/
def located (classpath : List Path) (result : Except Refusal Hierarchy.Found) :
    Job Interface := do
  let found ← Job.ofExcept (result.mapError faultOf)
  let place ← locate classpath found.binaryName
  return { found.type with codeSource := place }

/-- A disassembler as an introspector. -/
def introspector (tool : Disassembler) : Introspector := fun name => do
  let kept := (← get).listings
  let (asked, result) := Hierarchy.describe (tool.listings.keeping kept) name
  tool.noteAsked asked
  located tool.classpath result

/-! ## Tools whose runs have effects -/

/-- What a tool answers for a name: the listing that is kept, or what a run of it gives. -/
def answer (command : String) (classpath : List Path) (run : List String → Job Outcome)
    (name : String) : Job (Except Refusal Listing) := do
  if let some listing := (← get).listings.lookup name then return .ok listing
  let arguments := argumentsFor command classpath name
  noteRun arguments
  match ← Job.attempt (run arguments) with
  | .error (.file (.os fault)) => return .error (.input (.cannotRun command fault))
  | .error fault => throw fault
  | .ok outcome =>
    let answer := listingIn name outcome
    if let .ok listing := answer then keep name listing
    return answer

/-- The names that are still to be asked for once a name has been answered; none if that is the end. -/
def following (name : String) (pending : List String) : Except Refusal Listing → List String
  | .error _ => []
  | .ok listing =>
    match Hierarchy.methodsOf name listing with
    | .error _ => []
    | .ok _ => Hierarchy.parents listing ++ pending

/-- The answers that the description of a type asks for, in order, up to the first one that ends it.
At most a number of names is asked for, without those in `seen`. -/
def answers (ask : String → Job (Except Refusal Listing)) (limit : Nat) (seen pending : List String) :
    Job (List (String × Except Refusal Listing)) :=
  match pending with
  | [] => return []
  | name :: pending =>
    if name ∈ seen then answers ask limit seen pending
    else match limit with
      | 0 => return []
      | limit + 1 => do
        let answer ← ask name
        return (name, answer) :: (← answers ask limit (name :: seen) (following name pending answer))
termination_by (limit, pending.length)

/-- The number of names up to which a hierarchy is followed. -/
def nameLimit : Nat := 1000

/-- An introspector by a tool whose runs have effects: each name is asked for when its turn comes. -/
def explorer (command : String) (classpath : List Path) (run : List String → Job Outcome) :
    Introspector := fun name => do
  let ask := answer command classpath run
  let first ← ask name
  let others ← match first with
    | .error _ => pure []
    | .ok listing => answers ask nameLimit [] [listing.name]
  let table := others ++ [(name, first)]
  let get (name : String) : Except Refusal Listing :=
    (table.lookup name).getD (.error (.input (.unrecognised name)))
  let (_, result) := Hierarchy.describe (Listings.among (table.map Prod.fst) get) name
  located classpath result

end Disassembler
end JavaStubs

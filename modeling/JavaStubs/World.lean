import JavaStubs.Fault
import JavaStubs.Files.Disk
import JavaStubs.Tool.Outcome

/-!
What jobs work on: the disk, the environment and the clock, and what they leave besides files,
namely log records and the tools that were run. A `Job` keeps its effects when it ends in a
fault.

Two things hold throughout. A limit of the interpreter is modelled where a reader of documents
turns it into an answer: the nesting of JSON and TOML documents, and integers of too many digits.
All other recursion, over supertypes, directories or the names of a path, is as deep as its data.
And texts are sequences of Unicode scalar values, except where a surrogate that stands alone can
show, which is in JSON documents and in generated source; there is none in the name of a file.
-/
namespace JavaStubs

/-- How important a log record is. -/
inductive LogLevel where
  | debug
  | warning
  deriving DecidableEq, Repr

/-- The name of a level. -/
def LogLevel.name : LogLevel → String
  | .debug => "DEBUG"
  | .warning => "WARNING"

/-- A record of the log: its level, the part of the program that it comes from, and its text. -/
structure LogRecord where
  level : LogLevel
  source : String
  message : String
  deriving DecidableEq, Repr

def LogRecord.line (record : LogRecord) : String :=
  s!"{record.level.name} {record.source}: {record.message}"

/-- The external tools. -/
inductive ToolKind where
  | disassembler
  | compiler
  deriving DecidableEq, Repr

/-- What jobs work on. -/
structure World where
  disk : Disk
  environment : Environment
  now : Instant
  /-- The number of directories that were tried as workspaces. -/
  serial : Nat
  /-- The log, the latest record last. -/
  log : List LogRecord
  /-- The argument lists that tools were run with, the latest last. -/
  runs : List (ToolKind × List String)
  /-- The file that the journal wrote to last. -/
  journalFile : Option Path
  /-- The listings that the disassembler has given. -/
  listings : List (String × Listing)
  /-- Where the configuration file lies, if there may be one. -/
  configFile : Option Path
  /-- The configuration, once it was read. -/
  config : Option Fields

/-- A computation on a world that may end in a fault. -/
abbrev Job := ExceptT Fault (StateM World)

namespace World

/-- A world with a disk, an environment and a clock in which nothing has been done. -/
def start (disk : Disk) (environment : Environment) (now : Instant) (configFile : Option Path) :
    World where
  disk := disk
  environment := environment
  now := now
  serial := 0
  log := []
  runs := []
  journalFile := none
  listings := []
  configFile := configFile
  config := none

end World

namespace Job

/-- Runs an operation on the disk. -/
def onDisk {α : Type} (job : FileJob α) : Job α :=
  ExceptT.mk fun world =>
    match job.run world.disk with
    | (.ok value, disk) => (.ok value, { world with disk := disk })
    | (.error fault, disk) => (.error (.file fault), { world with disk := disk })

def record (level : LogLevel) (source message : String) : Job Unit :=
  modify fun world => { world with log := world.log ++ [⟨level, source, message⟩] }

def noteRun (tool : ToolKind) (arguments : List String) : Job Unit :=
  modify fun world => { world with runs := world.runs ++ [(tool, arguments)] }

/-- Runs a job and tells how it ended, without ending itself. -/
def attempt {α : Type} (job : Job α) : Job (Except Fault α) :=
  ExceptT.mk fun world =>
    match job.run world with
    | (result, world) => (.ok result, world)

/-- The outcome of a part that has no effects. -/
def ofExcept {α : Type} : Except Fault α → Job α
  | .ok value => pure value
  | .error fault => throw fault

/-- Ends in the fault that an operation on the disk refused by the operating system is turned
into. -/
def refused {α : Type} (job : Job α) (turn : OsFault → Fault) : Job α :=
  tryCatch job fun
    | .file (.os fault) => throw (turn fault)
    | fault => throw fault

end Job
end JavaStubs

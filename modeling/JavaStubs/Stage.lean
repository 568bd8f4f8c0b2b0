import JavaStubs.Files.Fault
import JavaStubs.Files.Path
import JavaStubs.Java.MethodDescriptor
import JavaStubs.Descriptor.Document

/-!
Failures of the stages that lead from the name of an interface to an archive. Each failure belongs
to the kind of its stage and has a cause; `StageFault.message` is the kind followed by the cause.
-/
namespace JavaStubs

/-- The kinds of stage failure. -/
inductive StageKind where
  | general
  | invalidInput
  | pathCreation
  | compilation
  | packaging
  deriving DecidableEq, Repr

namespace StageKind

/-- The name of a kind. -/
def name : StageKind → String
  | .general => "ImplerError"
  | .invalidInput => "InvalidInput"
  | .pathCreation => "PathCreationFailure"
  | .compilation => "CompilationFailure"
  | .packaging => "PackagingFailure"

/-- The report of a failure of a kind with a cause. -/
def report (kind : StageKind) (cause : String) : String := kind.name ++ ": " ++ cause

end StageKind

/-- A cause with the diagnostics of a tool on the lines below it, when there are any. -/
def withDiagnostics (cause diagnostics : String) : String :=
  if diagnostics.isEmpty then cause
  else cause ++ "\n" ++ String.ofList (Text.dropTrailing Text.isBlank diagnostics.toList)

/-- Why a type can not be implemented. -/
inductive InputCause where
  /-- The disassembler could not be started. -/
  | cannotRun (command : String) (fault : OsFault)
  /-- The disassembler failed. -/
  | cannotDescribe (type detail : String)
  /-- The disassembler reported no class. -/
  | unrecognised (type : String)
  /-- A member of a class has no method descriptor. -/
  | badMember (type member descriptor : String) (cause : MethodDescriptor.Cause)
  /-- A catalog has no such type. -/
  | unknownType (type : String)
  | notInterface (type : String)
  | privateInterface (type : String)
  /-- The file of a descriptor document could not be read. -/
  | unreadable (document : String) (fault : OsFault)
  /-- A descriptor document in a file is faulty. -/
  | faulty (document : String) (fault : Document.Fault)
  /-- A descriptor document given by value is faulty. -/
  | malformed (violations : List Violation)
  deriving Repr

/-- The wording of a cause. -/
def InputCause.message : InputCause → String
  | .cannotRun command fault => s!"Could not run {command}: {fault.message}"
  | .cannotDescribe type detail => s!"Could not describe '{type}': {detail}"
  | .unrecognised type => s!"Unrecognised javap output for '{type}'"
  | .badMember type member descriptor cause => s!"{type}.{member}: {cause.message descriptor}"
  | .unknownType type => s!"Unknown type '{type}'"
  | .notInterface type => s!"Interface expected, got '{type}'"
  | .privateInterface type => s!"Can not implement private interface '{type}'"
  | .unreadable document fault => s!"Could not load descriptor {document}: {fault.message}"
  | .faulty document fault => s!"Could not load descriptor {document}: {fault.message}"
  | .malformed violations => Document.formMessage violations

/-- The failure of a stage. -/
inductive StageFault where
  | invalidInput (cause : InputCause)
  /-- A directory for a file could not be made. -/
  | noDirectory (directory : Path) (fault : OsFault)
  /-- No workspace could be made in a directory. -/
  | noWorkspace (directory : Path) (fault : OsFault)
  /-- The source could not be written into the workspace. -/
  | noSource (fault : OsFault)
  /-- The compiler rejected a source file. -/
  | rejected (source : String) (exitCode : Int) (diagnostics : String)
  /-- The archive could not be written. -/
  | noArchive (archive : Path) (fault : OsFault)
  deriving Repr

namespace StageFault

/-- The kind of a failure. -/
def kind : StageFault → StageKind
  | .invalidInput _ => .invalidInput
  | .noDirectory .. => .pathCreation
  | .noWorkspace .. => .pathCreation
  | .noSource _ => .pathCreation
  | .rejected .. => .compilation
  | .noArchive .. => .packaging

/-- The cause of a failure, in words. -/
def cause : StageFault → String
  | .invalidInput cause => cause.message
  | .noDirectory directory fault => s!"Could not create path {directory.text}: {fault.message}"
  | .noWorkspace directory fault => s!"Could not create temp path in {directory.text}: {fault.message}"
  | .noSource fault => s!"Could not create file: {fault.message}"
  | .rejected source exitCode diagnostics =>
    withDiagnostics s!"Could not compile {source} (exit code {exitCode})" diagnostics
  | .noArchive archive fault => s!"Could not create jar file {archive.text}: {fault.message}"

def message (fault : StageFault) : String := fault.kind.report fault.cause

end StageFault
end JavaStubs

import JavaStubs.Java.Implementation
import JavaStubs.Introspection.Basic
import JavaStubs.Tool.Compiler
import JavaStubs.Archive.Writer
import JavaStubs.Journal.Basic
import JavaStubs.Workspace

/-!
The implementor: from the name of an interface to the source file of its trivial implementation,
or to an archive that holds nothing but the compiled class. Each invocation is recorded in the
journal, if there is one. `generateSource` gives up quietly when files cannot be written;
`generateArchive` ends in the failure of the stage that failed, and leaves no workspace behind.
-/
namespace JavaStubs

/-- What an implementor works with. -/
structure Implementor where
  settings : Settings
  introspector : Introspector
  compiler : Compiler
  journal : Option Journal

namespace Implementor

/-- The part of the program that log records of the implementor come from. -/
def source : String := "orchestrator.pipeline"

def journalOf (settings : Settings) : Option Journal :=
  if settings.journalEnabled then some (Journal.make settings.journalDir none) else none

/-! ## Names -/

/-- The path of the source file below a root. -/
def destination (settings : Settings) (type : Interface) (root : Path) : Path :=
  let parts := Implementation.nameParts type settings.implSuffix
  let names := parts.dropLast ++ [parts.getLast?.getD "" ++ settings.sourceExtension]
  names.foldl Path.child root

/-- The name of the class in an archive. -/
def entryName (settings : Settings) (type : Interface) : String :=
  Implementation.fileName type "/" settings.classExtension settings.implSuffix

/-- The path of the source file below a root; the directories above it are made. -/
def resolveDestination (settings : Settings) (type : Interface) (root : Path) : Job Path := do
  let path := destination settings type root
  Job.refused (Job.onDisk (Disk.makeDirectories path.parent)) fun fault =>
    .stage (.noDirectory path.parent fault)
  return path

/-! ## Stages -/

def sourceText (settings : Settings) (type : Interface) : String :=
  Implementation.source ⟨settings.implSuffix, settings.indent⟩ type

/-- Writes the source file below a root. -/
def writeSource (settings : Settings) (type : Interface) (root : Path) : Job Path := do
  let path ← resolveDestination settings type root
  let _ ← Job.onDisk (Disk.write path (.ofText (sourceText settings type)))
  Job.record .debug source s!"wrote {path.text}"
  return path

/-- The class path of a compilation: the workspace, then where the interface was found. -/
def classpath (type : Interface) (workspace : Path) : List Path :=
  workspace :: type.codeSource.toList

/-- The class file that belongs to a source file. -/
def classFileOf (settings : Settings) (file : Path) : Except Fault Path :=
  if Path.isSuffix settings.classExtension then .ok (file.withSuffix settings.classExtension)
  else .error (.noSuffix settings.classExtension)

/-- Compiles the source file, and tells the class file. -/
def compileSource (implementor : Implementor) (type : Interface) (workspace file : Path) :
    Job Path := do
  let outcome ← implementor.compiler.compile (classpath type workspace) file
  unless outcome.ok do
    throw (.stage (.rejected file.name outcome.code outcome.diagnostics))
  Job.ofExcept (classFileOf implementor.settings file)

/-- Writes the archive with the class file as its only entry, and closes it in any case. -/
def writeArchive (entry : String) (classFile archive : Path) : Job Unit := do
  let writer ← ArchiveWriter.open_ archive
  match ← Job.attempt (writer.addFile entry classFile) with
  | .ok filled => let _ ← filled.close
  | .error fault =>
    let _ ← writer.close
    throw fault

/-- Removes what was written of an archive, if anything was. -/
def discardPartial (archive : Path) : Job Unit :=
  tryCatch (Job.onDisk (Disk.removeFile archive)) fun
    | .file (.os ⟨.notFound, _⟩) => return
    | .file (.os fault) =>
      Job.record .warning source
        s!"Could not remove partial archive {archive.text}: {fault.message}"
    | fault => throw fault

/-- Packages the class file into the archive; an archive that could not be completed is removed. -/
def package (entry : String) (classFile archive : Path) : Job Unit :=
  tryCatch (writeArchive entry classFile archive) fun
    | .file (.os fault) => do
      discardPartial archive
      throw (.stage (.noArchive archive fault))
    | fault => throw fault

/-- Records an invocation. -/
def note (implementor : Implementor) (operation type outcome : String)
    (details : List (String × String)) : Job Unit := do
  if let some journal := implementor.journal then
    let fields := [("operation", operation), ("interface", type), ("outcome", outcome)] ++ details
    let _ ← journal.append (.table (fields.map fun (name, text) => (name, .text text)))

/-- Records an invocation that failed. -/
def noteFailure (implementor : Implementor) (operation type : String) (fault : StageFault) :
    Job Unit :=
  implementor.note operation type Event.outcomeFailed
    [("kind", fault.kind.name), ("message", fault.cause)]

/-- The description of a type that a class can implement; a refusal is recorded. -/
def describe (implementor : Implementor) (operation type : String) : Job Interface :=
  tryCatch (Introspection.implementable implementor.introspector type) fun
    | .stage (.invalidInput cause) => do
      implementor.noteFailure operation type (.invalidInput cause)
      throw (.stage (.invalidInput cause))
    | fault => throw fault

/-! ## Invocations -/

/-- The report of a fault that keeps a source file from being written, if it is one that the
invocation gives up quietly for. -/
def quietly? : Fault → Option String
  | .file (.os fault) => some fault.message
  | .stage (.noDirectory path fault) => some (StageFault.noDirectory path fault).message
  | _ => none

/-- Writes the source of the implementation of a type below a root, and tells its path; nothing
when it could not be written. -/
def generateSource (implementor : Implementor) (type : String) (root : Path) :
    Job (Option Path) := do
  let described ← implementor.describe "source" type
  match ← Job.attempt (writeSource implementor.settings described root) with
  | .ok path =>
    implementor.note "source" type Event.outcomeOk [("artifact", path.text)]
    return some path
  | .error fault =>
    match quietly? fault with
    | some report =>
      Job.record .warning source s!"Could not create file for {type}: {report}"
      implementor.note "source" type Event.outcomeSoftFailure [("message", report)]
      return none
    | none => throw fault

/-- Prepares the class in a workspace and packages it into the archive. -/
def buildArchive (implementor : Implementor) (type : Interface) (archive : Path) : Job Unit :=
  Workspace.within archive implementor.settings.tempPrefix fun workspace => do
    let file ← Job.refused (writeSource implementor.settings type workspace) fun fault =>
      .stage (.noSource fault)
    let classFile ← implementor.compileSource type workspace file
    package (entryName implementor.settings type) classFile archive

/-- Builds the archive with the compiled implementation of a type, and tells its path. -/
def generateArchive (implementor : Implementor) (type : String) (archive : Path) : Job Path := do
  let described ← implementor.describe "archive" type
  let archive ← Workspace.absolute archive
  match ← Job.attempt (implementor.buildArchive described archive) with
  | .ok _ =>
    implementor.note "archive" type Event.outcomeOk [("artifact", archive.text)]
    return archive
  | .error (.stage fault) =>
    implementor.noteFailure "archive" type fault
    throw (.stage fault)
  | .error fault => throw fault

end Implementor
end JavaStubs

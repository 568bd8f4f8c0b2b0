import JavaStubs.Archive.Reader
import JavaStubs.Stage
import JavaStubs.Java.Listing
import JavaStubs.Journal.Event
import JavaStubs.Config.Settings
import JavaStubs.Config.Toml.Document
import JavaStubs.Tool.Outcome

/-!
Everything that can end a job before its time. A failure of a stage is one that callers expect;
all other faults are reported as what they are.
-/
namespace JavaStubs

/-- Why a job ended before its time. -/
inductive Fault where
  | stage (fault : StageFault)
  | file (fault : FileFault)
  /-- A listing names no class in its header. -/
  | header (fault : Listing.Fault)
  | document (fault : Document.Fault)
  /-- The bytes of a file are no text. -/
  | notText (fault : Utf8.Fault)
  /-- A tool could not be run for other reasons than those of the operating system. -/
  | noOutcome (fault : ToolFault)
  /-- A text is no JSON. -/
  | notJson (text : List Char) (fault : Json.Fault)
  | event (fault : Event.Fault)
  | settings (fault : Settings.Fault)
  /-- The configuration file is malformed. -/
  | config (malformed : Toml.Malformed)
  /-- An option that names a path is given no text. -/
  | noPath
  /-- An option that names a class path is given no text. -/
  | noClasspath
  /-- A path of a schema leads out of the directory of schemas. -/
  | outsideSchemas
  /-- A text cannot take the place of a file's suffix. -/
  | noSuffix (suffix : String)
  | archive (fault : ArchiveFault)
  /-- An entry was added to a closed archive. -/
  | archiveClosed
  /-- The name of an entry takes more bytes than an archive can record. -/
  | entryNameSize
  /-- A part that is given from outside raised a fault of its own, with or without a message. -/
  | raised (message : Option String)
  deriving Repr

/-- The wording of a fault. -/
def Fault.message : Fault → String
  | .stage fault => fault.message
  | .file fault => fault.message
  | .header .namelessHeader => ""
  | .document fault => fault.message
  | .notText fault => fault.message
  | .noOutcome fault => fault.message
  | .notJson text fault => fault.message text
  | .event fault => fault.message
  | .settings fault => fault.message
  | .config malformed => malformed.message
  | .noPath => ""
  | .noClasspath => ""
  | .outsideSchemas => "Schema path escapes the schemas directory"
  | .noSuffix suffix => s!"Invalid suffix {Text.quoted suffix}"
  | .archive fault => fault.message
  | .archiveClosed => "Archive is closed"
  | .entryNameSize => "ushort format requires 0 <= number <= 65535"
  | .raised message => message.getD ""

/-- A fault of a stage whose input is refused. -/
def Fault.input (cause : InputCause) : Fault := .stage (.invalidInput cause)

/-- The fault that a missing outcome of a tool is. -/
def ToolFault.toFault : ToolFault → Fault
  | .refused fault => .file fault
  | .notText fault => .notText fault
  | fault => .noOutcome fault

end JavaStubs

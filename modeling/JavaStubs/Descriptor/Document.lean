import JavaStubs.Descriptor.Schema
import JavaStubs.Value.JsonReader
import JavaStubs.Text.Utf8
import JavaStubs.Java.Interface

/-!
Descriptor documents: interfaces written down as JSON tables. `Document.schema` states their form,
`Document.schemaValue` is the same schema as a document of its own, and `Document.interface`
builds the interface that a well-formed document describes.
-/
namespace JavaStubs.Document

/-- The kinds of type that a document may describe. -/
def kindNames : List String := ["interface", "class", "enum", "annotation", "record"]

def nameSchema : Schema := .rules [.kind [.string], .minLength 1]

def textSchema : Schema := .rules [.kind [.string]]

def flagSchema : Schema := .rules [.kind [.boolean]]

/-- A parameter: its type and its name. -/
def parameterSchema : Schema := .rules
  [.kind [.object], .required ["type", "name"], .only ["type", "name"],
   .fields [("type", nameSchema), ("name", nameSchema)]]

/-- A method: its name and return type, and optionally its parameters and whether it is abstract. -/
def methodSchema : Schema := .rules
  [.kind [.object], .required ["name", "return_type"],
   .only ["name", "return_type", "abstract", "parameters"],
   .fields
    [("name", nameSchema), ("return_type", nameSchema), ("abstract", flagSchema),
     ("parameters", .rules [.kind [.array], .items parameterSchema])]]

/-- A described type. -/
def schema : Schema := .rules
  [.kind [.object], .required ["simple_name", "methods"],
   .only ["package", "simple_name", "canonical_name", "kind", "private", "code_source", "methods"],
   .fields
    [("package", .rules [.kind [.string], .dottedName]),
     ("simple_name", nameSchema),
     ("canonical_name", textSchema),
     ("kind", .rules [.choice (kindNames.map Value.text)]),
     ("private", flagSchema),
     ("code_source", textSchema),
     ("methods", .rules [.kind [.array], .items methodSchema])]]

/-- The form of a table, as a document: the names that it must and may have, and their forms. -/
def tableForm (required : List String) (properties : Fields) : Fields :=
  [("type", .text "object"), ("required", .list (required.map Value.text)),
   ("additionalProperties", .boolean false), ("properties", .table properties)]

/-- The form of a value of one kind, as a document. -/
def kindForm (kind : Kind) : Value := .table [("type", .text kind.name)]

/-- The form of a text that is not empty, as a document. -/
def nameForm : Value := .table [("type", .text "string"), ("minLength", .integer 1)]

/-- The form of a list, as a document. -/
def listForm (items : Value) : Value := .table [("type", .text "array"), ("items", items)]

/-- The schema of descriptor documents, itself as a document. -/
def schemaValue : Value :=
  let parameter := tableForm ["type", "name"] [("type", nameForm), ("name", nameForm)]
  let method := tableForm ["name", "return_type"]
    [("name", nameForm), ("return_type", nameForm), ("abstract", kindForm .boolean),
     ("parameters", listForm (.table parameter))]
  .table <|
    [("$schema", .text "https://json-schema.org/draft/2020-12/schema"),
     ("$id", .text "urn:implementor:interface-descriptor:1"),
     ("title", .text "InterfaceDescriptor")] ++
    tableForm ["simple_name", "methods"]
      [("package", .table [("type", .text "string"), ("pattern", .text dottedNamePattern)]),
       ("simple_name", nameForm),
       ("canonical_name", kindForm .string),
       ("kind", .table [("enum", .list (kindNames.map Value.text))]),
       ("private", kindForm .boolean),
       ("code_source", kindForm .string),
       ("methods", listForm (.table method))]

/-- Whether one list of texts comes before or is another one. -/
def keysLe : List String → List String → Bool
  | [], _ => true
  | _ :: _, [] => false
  | a :: as, b :: bs => a < b || (a == b && keysLe as bs)

/-- The violations of a document, in the order of their paths as texts. -/
def violations (value : Value) : List Violation :=
  (schema.violations value).mergeSort fun a b => keysLe a.sortKey b.sortKey

/-- How many violations a message lists. -/
def listedViolations : Nat := 5

/-- The wording of violations: the first few of them. -/
def formMessage (violations : List Violation) : String :=
  "Invalid interface descriptor: " ++
    Text.joined "; " ((violations.take listedViolations).map Violation.message)

/-- Why the document at a path could not be read as an interface. -/
inductive Fault where
  /-- The bytes are no text. -/
  | notText (fault : Utf8.Fault)
  /-- The text is no JSON. -/
  | notJson (path : Path) (text : List Char) (fault : Json.Fault)
  /-- The text goes beyond a bound of the reader. -/
  | beyond (bound : Json.Cause)
  /-- The value has not the form of a descriptor. -/
  | form (violations : List Violation)
  deriving Repr

/-- The wording of a fault. -/
def Fault.message : Fault → String
  | .notText fault => fault.message
  | .notJson path text fault => path.text ++ ": invalid JSON: " ++ fault.message text
  | .beyond bound => bound.wording
  | .form violations => formMessage violations

/-- Whether a fault lies in what the document says, rather than in bytes or numbers that no reader
takes. -/
def Fault.isFormat : Fault → Bool
  | .notJson .. => true
  | .form _ => true
  | _ => false

/-- The parameter that a well-formed value describes. -/
def parameterOf (value : Value) : Parameter :=
  ⟨⟨value.textField "type" ""⟩, value.textField "name" ""⟩

/-- The method that a well-formed value describes. -/
def methodOf (value : Value) : Method where
  name := value.textField "name" ""
  returnType := ⟨value.textField "return_type" ""⟩
  parameters := (value.itemsField "parameters").map parameterOf
  isAbstract := value.flagField "abstract" true

/-- Where a document says the compiled type lies; a relative place is one in `base`. -/
def codeSourceOf (base : Option Path) (value : Value) : Option Path :=
  let source := value.textField "code_source" ""
  if source.isEmpty then none
  else match base with
    | some base => some (base.child source)
    | none => some (Path.ofText source)

/-- The interface that a well-formed value describes. -/
def describedBy (base : Option Path) (value : Value) : Interface :=
  Interface.describe
    (value.textField "package" "")
    (value.textField "simple_name" "")
    (value.textField "canonical_name" "")
    ((value.itemsField "methods").map methodOf)
    (value.textField "kind" "interface" == "interface")
    (value.flagField "private" false)
    (codeSourceOf base value)

/-- The interface that a value describes, or all that is wrong with it. -/
def interface (base : Option Path) (value : Value) : Except (List Violation) Interface :=
  let found := violations value
  if found.isEmpty then .ok (describedBy base value) else .error found

/-- The value that the bytes of a document at a path spell. -/
def value (path : Path) (bytes : ByteArray) : Except Fault Value := do
  let text ← (Utf8.readText bytes).mapError .notText
  (Json.read text.toList).mapError fun fault =>
    if fault.cause.isBound then .beyond fault.cause else .notJson path text.toList fault

/-- The interface that the bytes of a document describe; relative places in it are in `base`. -/
def read (path base : Path) (bytes : ByteArray) : Except Fault Interface := do
  (interface (some base) (← value path bytes)).mapError .form

end JavaStubs.Document

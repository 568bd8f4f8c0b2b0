import JavaStubs.Value.Pairs
import JavaStubs.Text.Quoted
import JavaStubs.Text.Words
import JavaStubs.Value.Display
import JavaStubs.Files.Path
import JavaStubs.Tool.Outcome

/-!
Configurations and the settings that come of them. A configuration is a nested table: `merge` keeps what
an upper layer does not replace, and `valueAt` looks a value up by the names on the way to it.

Settings are what a run goes by. Each has its effective value from the uppermost layer that gives
one: the caller's overrides, then the environment, then the configuration. `Settings.ofValues`
converts the effective values; it asks for a recognisable switch and a suffix that is not vacant.
-/
namespace JavaStubs.Config

/-- The fields that count without a configuration file. -/
def defaults : Fields :=
  [("implementor", .table
      [("impl_suffix", .text "Impl"),
       ("indent", .text "   "),
       ("source_extension", .text ".java"),
       ("class_extension", .text ".class"),
       ("temp_prefix", .text "temp")]),
   ("compiler", .table [("command", .text "javac"), ("extra_args", .list [])]),
   ("introspector", .table [("command", .text "javap")]),
   ("journal", .table [("enabled", .boolean false), ("dir", .text "logs/implementor")])]

mutual

/-- The value of a field that was `old` and is overridden by a value: tables are merged, any other
value replaces the old one. -/
def mergeValue (old : Option Value) : Value → Value
  | .table fields =>
    match old with
    | some (.table inner) => .table (merge inner fields)
    | _ => .table fields
  | value => value

/-- Fields with others laid over them. -/
def merge (base : Fields) : Fields → Fields
  | [] => base
  | (name, value) :: rest =>
    merge (Fields.put name (mergeValue (Fields.get? base name) value) base) rest

end

/-- Pairs with fields laid over them; only a name that is a text is replaced. -/
def mergePairs (base : Pairs) (fields : Fields) : Pairs :=
  fields.foldl (fun done (name, value) =>
    Pairs.put (.text name) (mergeValue (done.get? (.text name)) value) done) base

/-- What is found on the way through tables. -/
def find? : Value → List String → Option Value
  | value, [] => some value
  | .table fields, name :: rest =>
    match Fields.get? fields name with
    | some value => find? value rest
    | none => none
  | _, _ :: _ => none

/-- The fault of a way that leads nowhere. -/
structure Missing where
  path : String
  deriving DecidableEq, Repr

/-- The wording of a way that leads nowhere. -/
def Missing.message (fault : Missing) : String :=
  Text.quoted s!"Configuration path '{fault.path}' not found"

/-- The value at a path of names with dots between; a default other than null stands in for a
value that is not there. -/
def valueAt (config : Fields) (path : String) (default : Value) : Except Missing Value :=
  match find? (.table config) (Text.fieldsOf '.' path) with
  | some value => .ok value
  | none => if default matches .null then .error ⟨path⟩ else .ok default

end JavaStubs.Config

namespace JavaStubs

/-- What a run goes by. -/
structure Settings where
  implSuffix : String
  indent : String
  sourceExtension : String
  classExtension : String
  tempPrefix : String
  javac : String
  javacArgs : List String
  javap : String
  journalEnabled : Bool
  journalDir : Path
  deriving DecidableEq, Repr

namespace Settings

/-- Why no settings could be made. -/
inductive Fault where
  /-- A configuration path leads nowhere. -/
  | missing (fault : Config.Missing)
  /-- A value has a kind that its use does not allow. -/
  | wrongKind
  /-- The switch of the journal is neither a boolean nor a word for one. -/
  | noSwitch (value : Value)
  /-- The suffix of class names is vacant. -/
  | noSuffix
  /-- A whole number has too many digits to be a text. -/
  | tooManyDigits
  deriving Repr

/-- The wording of a fault. -/
def Fault.message : Fault → String
  | .missing fault => fault.message
  | .wrongKind => ""
  | .noSwitch value => s!"journal_enabled must be a boolean, got {value.shown}"
  | .noSuffix => "impl_suffix must be a non-empty string"
  | .tooManyDigits =>
    "Exceeds the limit (4300 digits) for integer string conversion; " ++
    "use sys.set_int_max_str_digits() to increase the limit"

/-- The settings that the table `implementor` of a configuration holds. -/
def implementorNames : List String :=
  ["impl_suffix", "indent", "source_extension", "class_extension", "temp_prefix"]

/-- The other settings, each with its configuration path. -/
def configured : List (String × String) :=
  [("javac", "compiler.command"), ("javac_args", "compiler.extra_args"),
   ("javap", "introspector.command"), ("journal_enabled", "journal.enabled"),
   ("journal_dir", "journal.dir")]

/-- The settings that the environment may give, each with its variable. -/
def variableNames : List (String × String) :=
  [("javac", "IMPLEMENTOR_JAVAC"), ("javap", "IMPLEMENTOR_JAVAP"),
   ("impl_suffix", "IMPLEMENTOR_IMPL_SUFFIX"),
   ("journal_enabled", "IMPLEMENTOR_JOURNAL_ENABLED"),
   ("journal_dir", "IMPLEMENTOR_JOURNAL_DIR")]

def onWords : List String := ["1", "true", "yes", "on"]

def offWords : List String := ["0", "false", "no", "off"]

/-- The switch that a value is: a boolean, or a word for one in any case and between blanks. -/
def switch? : Value → Option Bool
  | .boolean b => some b
  | .text s =>
    let word := Text.lowerAscii (Text.trimmed s)
    if onWords.contains word then some true
    else if offWords.contains word then some false
    else none
  | _ => none

/-- The values of the settings in a configuration. -/
def ofConfig (config : Fields) : Except Fault Fields := do
  let implementor ← (Config.valueAt config "implementor" .null).mapError .missing
  let own ← implementorNames.mapM fun name =>
    match implementor.field? name with
    | some value => .ok (name, value)
    | none => .error .wrongKind
  let others ← configured.mapM fun (name, path) => do
    return (name, ← (Config.valueAt config path .null).mapError .missing)
  return own ++ others

/-- The values of the settings that an environment gives; an empty variable gives none. -/
def ofEnvironment (environment : Environment) : Fields :=
  variableNames.filterMap fun (name, key) =>
    match environment.lookup key with
    | some value => if value.isEmpty then none else some (name, .text value)
    | none => none

/-- The overrides that count: all but null. -/
def given (overrides : Fields) : Fields :=
  overrides.filter fun (_, value) => !(value matches .null)

def textOf (value : Value) : Except Fault String :=
  if value.isShowable then .ok value.plain else .error .tooManyDigits

/-- The switch that a value has to be. -/
def switchOf (value : Value) : Except Fault Bool :=
  match switch? value with
  | some on => .ok on
  | none => if value.isShowable then .error (.noSwitch value) else .error .tooManyDigits

/-- The settings with given effective values. -/
def ofValues (values : Fields) : Except Fault Settings := do
  let value (name : String) := (Fields.get? values name).getD .null
  let journalEnabled ← switchOf (value "journal_enabled")
  if (value "impl_suffix").isVacant then throw .noSuffix
  let implSuffix ← textOf (value "impl_suffix")
  let indent ← textOf (value "indent")
  let sourceExtension ← textOf (value "source_extension")
  let classExtension ← textOf (value "class_extension")
  let tempPrefix ← textOf (value "temp_prefix")
  let javac ← textOf (value "javac")
  let some items := (value "javac_args").items? | throw .wrongKind
  let javacArgs ← items.mapM textOf
  let javap ← textOf (value "javap")
  let .text journalDir := value "journal_dir" | throw .wrongKind
  return {
    implSuffix, indent, sourceExtension, classExtension, tempPrefix, javac, javacArgs, javap
    journalEnabled
    journalDir := Path.ofText journalDir }

/-- The settings from a configuration, an environment and overrides. -/
def load (config : Fields) (environment : Environment) (overrides : Fields) :
    Except Fault Settings := do
  let configured ← ofConfig config
  ofValues (Fields.putAll (Fields.putAll configured (ofEnvironment environment)) (given overrides))

end Settings
end JavaStubs

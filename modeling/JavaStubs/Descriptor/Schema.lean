import JavaStubs.Value.Display

/-!
Schemas: rules that a value is checked against. A schema is a list of rules in order, and
`Schema.violations` lists every broken one with the path of the value that breaks it. `ofFields?`
reads a schema from a table, over the rules that the schema of descriptors is made of; `Cache` keeps
read schemas by their identifier, and the first one read under an identifier stays.

What a rule asks for, the order of violations and the wording of each (`Rule.violations`,
`Breach.message`) are those of the schema library that the program relies on. They are assumed
here, and the answers of the program show them.
-/
namespace JavaStubs

/-- The kinds of value that a schema tells apart. -/
inductive Kind where
  | null | boolean | integer | number | string | array | object
  deriving DecidableEq, Repr

namespace Kind

/-- The name of a kind. -/
def name : Kind → String
  | .null => "null"
  | .boolean => "boolean"
  | .integer => "integer"
  | .number => "number"
  | .string => "string"
  | .array => "array"
  | .object => "object"

/-- The kind of a name. -/
def ofName? : String → Option Kind
  | "null" => some .null
  | "boolean" => some .boolean
  | "integer" => some .integer
  | "number" => some .number
  | "string" => some .string
  | "array" => some .array
  | "object" => some .object
  | _ => none

/-- Whether a value is of a kind. A whole double is an integer. -/
def holds : Kind → Value → Bool
  | .null, .null => true
  | .boolean, .boolean _ => true
  | .integer, .integer _ => true
  | .integer, .real x => x.toInt?.isSome
  | .number, .integer _ => true
  | .number, .real _ => true
  | .string, .text _ => true
  | .array, .list _ => true
  | .object, .table _ => true
  | _, _ => false

end Kind

mutual

/-- A rule of a schema. -/
inductive Rule where
  /-- The value is of one of the kinds. -/
  | kind (kinds : List Kind)
  /-- The value is among the choices. -/
  | choice (values : List Value)
  /-- A text has at least this many characters. -/
  | minLength (length : Nat)
  /-- A text is empty or a sequence of ASCII identifiers with dots between, and may end in a line
  feed. -/
  | dottedName
  /-- A table has the fields. -/
  | required (names : List String)
  /-- A table has no other fields. -/
  | only (names : List String)
  /-- The named fields of a table, where present, follow schemas. -/
  | fields (schemas : List (String × Schema))
  /-- The items of a list follow a schema. -/
  | items (schema : Schema)

/-- A list of rules, in the order in which they are checked. -/
inductive Schema where
  | rules (rules : List Rule)

end

/-- A step on the way to a value inside another one. -/
inductive Step where
  | field (name : String)
  | item (index : Nat)
  deriving DecidableEq, Repr

namespace Step

/-- The step as part of a path. -/
def text : Step → String
  | .field name => "." ++ name
  | .item index => s!"[{index}]"

/-- The step as a text to order by: an index by its digits. -/
def sortKey : Step → String
  | .field name => name
  | .item index => toString index

end Step

/-- How a value breaks a rule. -/
inductive Breach where
  | wrongKind (value : Value) (kinds : List Kind)
  | noChoice (value : Value) (values : List Value)
  | tooShort (text : String) (least : Nat)
  | noDottedName (text : String)
  | missing (name : String)
  | unexpected (names : List String)
  deriving Repr

/-- The pattern of a dotted name, as messages show it. -/
def dottedNamePattern : String :=
  "^([A-Za-z_$][A-Za-z0-9_$]*(\\.[A-Za-z_$][A-Za-z0-9_$]*)*)?$"

/-- The wording of a breach. -/
def Breach.message : Breach → String
  | .wrongKind value kinds =>
    value.shown ++ " is not of type " ++
      Text.joined ", " (kinds.map fun kind => Text.quoted kind.name)
  | .noChoice value values => value.shown ++ " is not one of " ++ (Value.list values).shown
  | .tooShort text least =>
    Text.quoted text ++ (if least == 1 then " should be non-empty" else " is too short")
  | .noDottedName text =>
    Text.quoted text ++ " does not match " ++ Text.quoted dottedNamePattern
  | .missing name => Text.quoted name ++ " is a required property"
  | .unexpected names =>
    "Additional properties are not allowed (" ++ Text.joined ", " (names.map Text.quoted) ++
      (if names.length == 1 then " was" else " were") ++ " unexpected)"

/-- A broken rule and the path of the value that breaks it, from the outermost step on. -/
structure Violation where
  path : List Step
  breach : Breach
  deriving Repr

namespace Violation

/-- The violation seen from one step further out. -/
def under (step : Step) (violation : Violation) : Violation :=
  { violation with path := step :: violation.path }

/-- The path and the breach as a text. -/
def message (violation : Violation) : String :=
  String.join ("$" :: violation.path.map Step.text) ++ ": " ++ violation.breach.message

/-- What violations are ordered by. -/
def sortKey (violation : Violation) : List String := violation.path.map Step.sortKey

end Violation

/-- A letter that an ASCII identifier may begin with. -/
def isNameStart (c : Char) : Bool :=
  Text.isLowerAscii c || Text.isUpperAscii c || c == '_' || c == '$'

/-- A letter that an ASCII identifier may hold. -/
def isNamePart (c : Char) : Bool := isNameStart c || Text.isDigitAscii c

/-- An ASCII identifier. -/
def isIdentifier : List Char → Bool
  | [] => false
  | c :: rest => isNameStart c && rest.all isNamePart

/-- Nothing, or ASCII identifiers with dots between. -/
def isDottedIdentifiers (text : List Char) : Bool :=
  text.isEmpty || (Text.fields (· == '.') text).all isIdentifier

/-- Dotted identifiers, with or without a line feed at the end. -/
def isDottedName (text : List Char) : Bool :=
  isDottedIdentifiers text ||
    (text.getLast? == some '\n' && isDottedIdentifiers text.dropLast)

/-- The names of a table's fields that are not among `allowed`, in order. -/
def unexpectedNames (allowed : List String) (fields : Fields) : List String :=
  ((Fields.names fields).filter (!allowed.contains ·)).mergeSort fun a b => a ≤ b

mutual

/-- The violations of a rule by a value. -/
def Rule.violations : Rule → Value → List Violation
  | .kind kinds, value => if kinds.any (·.holds value) then [] else [⟨[], .wrongKind value kinds⟩]
  | .choice values, value =>
    if values.any (·.same value) then [] else [⟨[], .noChoice value values⟩]
  | .minLength least, .text text =>
    if text.length < least then [⟨[], .tooShort text least⟩] else []
  | .dottedName, .text text =>
    if isDottedName text.toList then [] else [⟨[], .noDottedName text⟩]
  | .required names, .table fields =>
    (names.filter (!Fields.has fields ·)).map fun name => ⟨[], .missing name⟩
  | .only names, .table fields =>
    let extra := unexpectedNames names fields
    if extra.isEmpty then [] else [⟨[], .unexpected extra⟩]
  | .fields schemas, .table fields => fieldViolations schemas fields
  | .items schema, .list items =>
    items.zipIdx.flatMap fun (item, index) => (schema.violations item).map (·.under (.item index))
  | _, _ => []

/-- The violations of the schemas of fields by a table. -/
def fieldViolations : List (String × Schema) → Fields → List Violation
  | [], _ => []
  | (name, schema) :: rest, fields =>
    (match Fields.get? fields name with
      | some value => (schema.violations value).map (·.under (.field name))
      | none => []) ++ fieldViolations rest fields

/-- The violations of a schema by a value, rule by rule. -/
def Schema.violations : Schema → Value → List Violation
  | .rules rules, value => ruleViolations rules value

/-- The violations of rules by a value, rule by rule. -/
def ruleViolations : List Rule → Value → List Violation
  | [], _ => []
  | rule :: rest, value => rule.violations value ++ ruleViolations rest value

end

namespace Schema

/-- Why a value is no schema. -/
inductive Fault where
  /-- It is no table. -/
  | noTable
  /-- Its identifier is a list or a table. -/
  | noIdentifier
  /-- It breaks the rules that schemas follow. -/
  | illFormed
  deriving DecidableEq, Repr

/-- The kinds that a value names, one or several different ones. -/
def kindsOf? : Value → Option (List Kind)
  | .text name => (Kind.ofName? name).map fun kind => [kind]
  | .list names => do
    let kinds ← names.mapM fun
      | .text name => Kind.ofName? name
      | _ => none
    if kinds.isEmpty || kinds.eraseDups.length != kinds.length then none else some kinds
  | _ => none

/-- The least length that a value gives. -/
def lengthOf? : Value → Option Nat
  | .integer n => if 0 ≤ n then some n.toNat else none
  | .real x => do
    let n ← x.toInt?
    if 0 ≤ n then some n.toNat else none
  | _ => none

/-- Whether a text holds no number sign but at its end. -/
def hasNoFragment (text : List Char) : Bool := !text.dropLast.contains '#'

/-- Whether a value can identify a schema: a text without a fragment, which may end in a line
feed. -/
def isIdentifierText : Value → Bool
  | .text s =>
    hasNoFragment s.toList ||
      (s.toList.getLast? == some '\n' && hasNoFragment s.toList.dropLast)
  | _ => false

/-- The different texts that a value lists. -/
def namesOf? : Value → Option (List String)
  | .list items => do
    let names ← items.mapM fun
      | .text name => some name
      | _ => none
    if names.eraseDups.length != names.length then none else some names
  | _ => none

/-- The names of the fields that a schema speaks of. -/
def propertyNames (fields : Fields) : List String :=
  match Fields.get? fields "properties" with
  | some (.table properties) => Fields.names properties
  | _ => []

/-- The rule that a field of a schema states without another schema, if it states one. `known` are the
names of the fields that the schema speaks of. -/
def plainRule? (known : List String) (name : String) (value : Value) : Except Fault (Option Rule) :=
  match name with
  | "$id" => if isIdentifierText value then .ok none else .error .illFormed
  | "type" =>
    match kindsOf? value with
    | some kinds => .ok (some (.kind kinds))
    | none => .error .illFormed
  | "enum" =>
    match value with
    | .list values => .ok (some (.choice values))
    | _ => .error .illFormed
  | "minLength" =>
    match lengthOf? value with
    | some length => .ok (some (.minLength length))
    | none => .error .illFormed
  | "pattern" =>
    match value with
    | .text pattern => .ok (if pattern == dottedNamePattern then some .dottedName else none)
    | _ => .error .illFormed
  | "required" =>
    match namesOf? value with
    | some names => .ok (some (.required names))
    | none => .error .illFormed
  | "additionalProperties" =>
    match value with
    | .boolean false => .ok (some (.only known))
    | .boolean true => .ok none
    | _ => .error .illFormed
  | "properties" => .error .illFormed
  | "items" => .error .illFormed
  | _ => .ok none

mutual

/-- The rule that a field of a schema states, if it states one. -/
def ruleOf? (known : List String) (name : String) : Value → Except Fault (Option Rule)
  | .table fields =>
    if name == "properties" then do
      let schemas ← schemasOf? fields
      return some (.fields schemas)
    else if name == "items" then do
      let rules ← rulesOf? (propertyNames fields) fields
      return some (.items (.rules rules))
    else plainRule? known name (.table fields)
  | value => plainRule? known name value

/-- The rules that fields of a schema state, in their order. -/
def rulesOf? (known : List String) : Fields → Except Fault (List Rule)
  | [] => .ok []
  | (name, value) :: rest => do
    let rule ← ruleOf? known name value
    let others ← rulesOf? known rest
    return rule.toList ++ others

/-- The schemas that a table has for names. -/
def schemasOf? : Fields → Except Fault (List (String × Schema))
  | [] => .ok []
  | (name, value) :: rest => do
    let schema ← schemaOf? value
    let others ← schemasOf? rest
    return (name, schema) :: others

/-- The schema that a value states. -/
def schemaOf? : Value → Except Fault Schema
  | .table fields => do
    let rules ← rulesOf? (propertyNames fields) fields
    return .rules rules
  | _ => .error .illFormed

end

/-- The schema that the fields of a table state. -/
def ofFields? (fields : Fields) : Except Fault Schema := do
  let rules ← rulesOf? (propertyNames fields) fields
  return .rules rules

/-- Schemas already read, by their identifiers; one without has the empty text. -/
abbrev Cache := List (String × Schema)

/-- A schema from the cache or, when its identifier is new, read and kept. -/
def compile (cache : Cache) : Value → Except Fault (Schema × Cache)
  | .table fields =>
    match (Fields.get? fields "$id").getD (.text "") with
    | .list _ => .error .noIdentifier
    | .table _ => .error .noIdentifier
    | .text id =>
      match cache.lookup id with
      | some schema => .ok (schema, cache)
      | none => do
        let schema ← ofFields? fields
        return (schema, cache ++ [(id, schema)])
    | _ => .error .illFormed
  | _ => .error .noTable

end Schema
end JavaStubs

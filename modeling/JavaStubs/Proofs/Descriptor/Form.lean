import JavaStubs.Descriptor.Document
import JavaStubs.Proofs.Files.Names

/-!
Which documents are accepted. The schema is read off rule by rule: what it asks of a table, of a list and of a
text is said here without it, and a document describes a type exactly if it has that form. The one
difference is a package that ends in a line feed. The rule for packages is that of the pattern which the
document of the schema has for them.
-/
namespace JavaStubs

/-! ## What rules ask for -/

namespace Schema

variable {value : Value}

theorem ruleViolations_eq_nil_iff {rules : List Rule} :
    ruleViolations rules value = [] ↔ ∀ rule ∈ rules, rule.violations value = [] := by
  induction rules with
  | nil => simp [ruleViolations]
  | cons rule rules ih => rw [ruleViolations, List.append_eq_nil_iff, ih, List.forall_mem_cons]

theorem fieldViolations_eq_nil_iff {schemas : List (String × Schema)} {fields : Fields} :
    fieldViolations schemas fields = [] ↔ ∀ named ∈ schemas, ∀ value,
      Fields.get? fields named.1 = some value → named.2.violations value = [] := by
  induction schemas with
  | nil => simp [fieldViolations]
  | cons named schemas ih =>
    obtain ⟨name, schema⟩ := named
    rw [fieldViolations, List.append_eq_nil_iff, ih, List.forall_mem_cons]
    refine and_congr_left fun _ => ?_
    cases Fields.get? fields name with
    | none => simp
    | some value => simp

theorem rules_iff {rules : List Rule} :
    (Schema.rules rules).violations value = [] ↔ ∀ rule ∈ rules, rule.violations value = [] := by
  rw [Schema.violations, ruleViolations_eq_nil_iff]

theorem text_of_kind (follows : (Rule.kind [.string]).violations value = []) : ∃ text, value = .text text := by
  cases value with
  | text text => exact ⟨text, rfl⟩
  | _ => cases follows

theorem table_of_kind (follows : (Rule.kind [.object]).violations value = []) :
    ∃ fields, value = .table fields := by
  cases value with
  | table fields => exact ⟨fields, rfl⟩
  | _ => cases follows

theorem list_of_kind (follows : (Rule.kind [.array]).violations value = []) :
    ∃ items, value = .list items := by
  cases value with
  | list items => exact ⟨items, rfl⟩
  | _ => cases follows

theorem required_iff {names : List String} {fields : Fields} :
    (Rule.required names).violations (.table fields) = [] ↔
      ∀ name ∈ names, ∃ value, Fields.get? fields name = some value := by
  rw [Rule.violations, List.map_eq_nil_iff, List.filter_eq_nil_iff]
  refine forall₂_congr fun name _ => ?_
  rw [Bool.not_eq_true', Bool.not_eq_false, Fields.has, Option.isSome_iff_exists]
  rfl

theorem only_iff {names : List String} {fields : Fields} :
    (Rule.only names).violations (.table fields) = [] ↔ ∀ name ∈ Fields.names fields, name ∈ names := by
  have extra : (unexpectedNames names fields).isEmpty = true ↔ ∀ name ∈ Fields.names fields, name ∈ names := by
    rw [unexpectedNames, List.isEmpty_iff, ← List.length_eq_zero_iff, List.length_mergeSort,
      List.length_eq_zero_iff, List.filter_eq_nil_iff]
    simp
  rw [← extra, Rule.violations]
  by_cases none : (unexpectedNames names fields).isEmpty = true
  · simp [none]
  · simp [none]

theorem items_iff {schema : Schema} {items : List Value} :
    (Rule.items schema).violations (.list items) = [] ↔ ∀ item ∈ items, schema.violations item = [] := by
  rw [Rule.violations, List.flatMap_eq_nil_iff]
  simp only [List.map_eq_nil_iff, Prod.forall]
  constructor
  · intro each item member
    obtain ⟨index, inside, rfl⟩ := List.getElem_of_mem member
    exact each _ index (List.mem_zipIdx_iff_getElem?.mpr (by simp [inside]))
  · intro each item index member
    exact each item (List.fst_mem_of_mem_zipIdx member)

/-- A table follows its schema if it has the names that it must have, has no other names than it may, and
each of its values follows the schema for its name. -/
theorem table_iff {required allowed : List String} {schemas : List (String × Schema)} :
    (Schema.rules [.kind [.object], .required required, .only allowed, .fields schemas]).violations value = [] ↔
      ∃ fields, value = .table fields ∧
        (∀ name ∈ required, ∃ value, Fields.get? fields name = some value) ∧
        (∀ name ∈ Fields.names fields, name ∈ allowed) ∧
        ∀ named ∈ schemas, ∀ value, Fields.get? fields named.1 = some value → named.2.violations value = [] := by
  rw [rules_iff]
  simp only [List.forall_mem_cons, List.not_mem_nil, false_implies, implies_true, and_true]
  constructor
  · rintro ⟨kind, must, may, named⟩
    obtain ⟨fields, rfl⟩ := table_of_kind kind
    exact ⟨fields, rfl, required_iff.mp must, only_iff.mp may, fieldViolations_eq_nil_iff.mp named⟩
  · rintro ⟨fields, rfl, must, may, named⟩
    exact ⟨rfl, required_iff.mpr must, only_iff.mpr may, fieldViolations_eq_nil_iff.mpr named⟩

/-- A list follows its schema if each of its items does. -/
theorem list_iff {schema : Schema} :
    (Schema.rules [.kind [.array], .items schema]).violations value = [] ↔
      ∃ items, value = .list items ∧ ∀ item ∈ items, schema.violations item = [] := by
  rw [rules_iff]
  simp only [List.forall_mem_cons, List.not_mem_nil, false_implies, implies_true, and_true]
  constructor
  · rintro ⟨kind, each⟩
    obtain ⟨items, rfl⟩ := list_of_kind kind
    exact ⟨items, rfl, items_iff.mp each⟩
  · rintro ⟨items, rfl, each⟩
    exact ⟨rfl, items_iff.mpr each⟩

theorem choice_iff {names : List String} :
    (Schema.rules [.choice (names.map Value.text)]).violations value = [] ↔
      ∃ name ∈ names, value = .text name := by
  have among : ((names.map Value.text).any (·.same value)) = true ↔ ∃ name ∈ names, value = .text name := by
    rw [List.any_map, List.any_eq_true]
    refine exists_congr fun name => and_congr_right fun _ => ?_
    cases value with
    | text text =>
      change (name == text) = true ↔ Value.text text = Value.text name
      rw [beq_iff_eq, Value.text.injEq]
      exact eq_comm
    | _ => simp [Value.same]
  rw [← among, rules_iff]
  simp [Rule.violations]

end Schema

/-! ## Dotted names -/

/-- Identifiers with dots between, or nothing. -/
def IsDotted (text : List Char) : Prop :=
  ∃ names : List (List Char), (∀ name ∈ names, isIdentifier name = true) ∧ text = ['.'].intercalate names

theorem not_mem_of_isIdentifier {c : Char} {name : List Char} (outside : isNamePart c = false)
    (identifier : isIdentifier name = true) : c ∉ name := by
  cases name with
  | nil => exact List.not_mem_nil
  | cons d rest =>
    unfold isIdentifier at identifier
    rw [Bool.and_eq_true, List.all_eq_true] at identifier
    obtain ⟨start, part⟩ := identifier
    intro member
    rcases List.mem_cons.mp member with rfl | member
    · simp [isNamePart, start] at outside
    · simp [part c member] at outside

theorem isDottedIdentifiers_iff {text : List Char} : isDottedIdentifiers text = true ↔ IsDotted text := by
  unfold isDottedIdentifiers
  rw [Bool.or_eq_true, List.isEmpty_iff, List.all_eq_true]
  constructor
  · rintro (rfl | identifiers)
    · exact ⟨[], by simp, rfl⟩
    · exact ⟨_, identifiers, (Text.intercalate_fields '.' text).symm⟩
  · rintro ⟨names, identifiers, rfl⟩
    by_cases none : names = []
    · subst none
      exact .inl rfl
    · rw [Path.fields_intercalate none fun name member =>
        not_mem_of_isIdentifier (by decide) (identifiers name member)]
      exact .inr identifiers

/-- The names that pass for dotted ones: a line feed at the end is not seen. -/
def PassesDotted (text : List Char) : Prop := IsDotted text ∨ ∃ front, text = front ++ ['\n'] ∧ IsDotted front

theorem isDottedName_iff {text : List Char} : isDottedName text = true ↔ PassesDotted text := by
  unfold isDottedName
  rw [Bool.or_eq_true, Bool.and_eq_true, beq_iff_eq, isDottedIdentifiers_iff, isDottedIdentifiers_iff]
  refine or_congr_right ?_
  constructor
  · rintro ⟨last, dotted⟩
    exact ⟨text.dropLast, (List.dropLast_append_getLast? '\n' last).symm, dotted⟩
  · rintro ⟨front, rfl, dotted⟩
    rw [List.getLast?_concat, List.dropLast_concat]
    exact ⟨rfl, dotted⟩

/-! ## The pattern of dotted names -/

/-- A pattern of texts. -/
inductive Pattern where
  /-- A character in one of some ranges. -/
  | oneOf (ranges : List (Char × Char))
  /-- A character as it is. -/
  | literal (c : Char)
  | seq (first second : Pattern)
  /-- A pattern over and over, or not at all. -/
  | many (pattern : Pattern)
  | maybe (pattern : Pattern)

namespace Pattern

/-- A range of characters as it is written. -/
def rangeText (range : Char × Char) : List Char :=
  if range.1 == range.2 then [range.1] else [range.1, '-', range.2]

/-- Whether a mark behind a pattern would apply to the last part of it alone. -/
def isSequence : Pattern → Bool
  | seq .. => true
  | _ => false

/-- A pattern as it is written in front of a mark. -/
def grouped (pattern : Pattern) (text : List Char) : List Char :=
  if pattern.isSequence then '(' :: (text ++ [')']) else text

/-- A pattern as it is written. -/
def text : Pattern → List Char
  | oneOf ranges => '[' :: (ranges.flatMap rangeText ++ [']'])
  | literal c => ['\\', c]
  | seq first second => first.text ++ second.text
  | many pattern => grouped pattern pattern.text ++ ['*']
  | maybe pattern => grouped pattern pattern.text ++ ['?']

/-- The texts of a pattern. -/
inductive Matches : Pattern → List Char → Prop
  | oneOf {ranges : List (Char × Char)} {c : Char} (inside : ∃ range ∈ ranges, range.1 ≤ c ∧ c ≤ range.2) :
      Matches (.oneOf ranges) [c]
  | literal (c : Char) : Matches (.literal c) [c]
  | seq {first second : Pattern} {s t : List Char} (front : Matches first s) (back : Matches second t) :
      Matches (.seq first second) (s ++ t)
  | none (pattern : Pattern) : Matches (.many pattern) []
  | more {pattern : Pattern} {s t : List Char} (front : Matches pattern s)
      (back : Matches (.many pattern) t) :
      Matches (.many pattern) (s ++ t)
  | skip (pattern : Pattern) : Matches (.maybe pattern) []
  | take {pattern : Pattern} {s : List Char} (once : Matches pattern s) : Matches (.maybe pattern) s

theorem matches_oneOf_iff {ranges : List (Char × Char)} {s : List Char} :
    Matches (.oneOf ranges) s ↔ ∃ c, s = [c] ∧ ∃ range ∈ ranges, range.1 ≤ c ∧ c ≤ range.2 := by
  constructor
  · rintro ⟨inside⟩
    exact ⟨_, rfl, inside⟩
  · rintro ⟨c, rfl, inside⟩
    exact .oneOf inside

theorem matches_literal_iff {c : Char} {s : List Char} : Matches (.literal c) s ↔ s = [c] := by
  constructor
  · rintro ⟨⟩
    rfl
  · rintro rfl
    exact .literal c

theorem matches_seq_iff {first second : Pattern} {s : List Char} :
    Matches (.seq first second) s ↔
      ∃ front back, s = front ++ back ∧ Matches first front ∧ Matches second back := by
  constructor
  · rintro (_ | _ | ⟨front, back⟩)
    exact ⟨_, _, rfl, front, back⟩
  · rintro ⟨front, back, rfl, first, second⟩
    exact .seq first second

theorem matches_maybe_iff {pattern : Pattern} {s : List Char} :
    Matches (.maybe pattern) s ↔ s = [] ∨ Matches pattern s := by
  constructor
  · intro matching
    cases matching with
    | skip => exact .inl rfl
    | take once => exact .inr once
  · rintro (rfl | once)
    · exact .skip pattern
    · exact .take once

theorem matches_many_iff {pattern : Pattern} {s : List Char} :
    Matches (.many pattern) s ↔
      ∃ pieces : List (List Char), s = pieces.flatten ∧ ∀ piece ∈ pieces, Matches pattern piece := by
  constructor
  · intro matching
    generalize same : Pattern.many pattern = whole at matching
    induction matching with
    | none other => exact ⟨[], rfl, by simp⟩
    | @more other s t front back _ ih =>
      obtain rfl := Pattern.many.inj same
      obtain ⟨pieces, rfl, each⟩ := ih rfl
      exact ⟨s :: pieces, rfl, List.forall_mem_cons.mpr ⟨front, each⟩⟩
    | _ => cases same
  · rintro ⟨pieces, rfl, each⟩
    induction pieces with
    | nil => exact .none pattern
    | cons piece pieces ih =>
      obtain ⟨first, others⟩ := List.forall_mem_cons.mp each
      exact .more first (ih others)

/-- The letters that an identifier may begin with. -/
def nameStart : Pattern := .oneOf [('A', 'Z'), ('a', 'z'), ('_', '_'), ('$', '$')]

/-- The letters that an identifier may go on with. -/
def namePart : Pattern := .oneOf [('A', 'Z'), ('a', 'z'), ('0', '9'), ('_', '_'), ('$', '$')]

def identifier : Pattern := .seq nameStart (.many namePart)

/-- Nothing, or identifiers with dots between. -/
def dotted : Pattern := .maybe (.seq identifier (.many (.seq (.literal '.') identifier)))

/-- The pattern of a dotted name is written between the marks for the ends of a text. -/
theorem text_dotted : dottedNamePattern.toList = '^' :: (dotted.text ++ ['$']) := by decide +kernel

private theorem between_iff (c d : Char) : d ≤ c ∧ c ≤ d ↔ c = d :=
  ⟨fun ⟨low, high⟩ => Char.le_antisymm high low, fun same => same ▸ ⟨Char.le_refl c, Char.le_refl c⟩⟩

theorem matches_nameStart_iff {s : List Char} : Matches nameStart s ↔ ∃ c, s = [c] ∧ isNameStart c = true := by
  refine matches_oneOf_iff.trans (exists_congr fun c => and_congr_right fun _ => ?_)
  simp only [isNameStart, Text.isLowerAscii, Text.isUpperAscii, List.exists_mem_cons_iff, List.not_mem_nil,
    false_and, exists_false, or_false, Bool.or_eq_true, Bool.and_eq_true, decide_eq_true_eq, beq_iff_eq,
    between_iff]
  tauto

theorem matches_namePart_iff {s : List Char} : Matches namePart s ↔ ∃ c, s = [c] ∧ isNamePart c = true := by
  refine matches_oneOf_iff.trans (exists_congr fun c => and_congr_right fun _ => ?_)
  simp only [isNamePart, isNameStart, Text.isLowerAscii, Text.isUpperAscii, Text.isDigitAscii,
    List.exists_mem_cons_iff, List.not_mem_nil, false_and, exists_false, or_false, Bool.or_eq_true,
    Bool.and_eq_true, decide_eq_true_eq, beq_iff_eq, between_iff]
  tauto

/-- Pieces of one character each are the characters of a text. -/
theorem matches_many_letter_iff {letter : Pattern} {p : Char → Bool}
    (letters : ∀ {s}, Matches letter s ↔ ∃ c, s = [c] ∧ p c = true) {s : List Char} :
    Matches (.many letter) s ↔ s.all p = true := by
  rw [matches_many_iff, List.all_eq_true]
  constructor
  · rintro ⟨pieces, rfl, each⟩ c member
    obtain ⟨piece, among, inside⟩ := List.mem_flatten.mp member
    obtain ⟨d, rfl, good⟩ := letters.mp (each piece among)
    rwa [List.mem_singleton.mp inside]
  · intro each
    refine ⟨s.map fun c => [c], ?_, fun piece member => ?_⟩
    · exact (List.flatMap_def.symm.trans (List.flatMap_singleton' s)).symm
    · obtain ⟨c, among, rfl⟩ := List.mem_map.mp member
      exact letters.mpr ⟨c, rfl, each c among⟩

theorem intercalate_dots (first : List Char) (names : List (List Char)) :
    ['.'].intercalate (first :: names) = first ++ names.flatMap ('.' :: ·) := by
  induction names generalizing first with
  | nil => simp
  | cons name names ih => simp [List.intercalate_cons_cons, ih]

theorem matches_identifier_iff {s : List Char} : Matches identifier s ↔ isIdentifier s = true := by
  unfold identifier
  rw [matches_seq_iff]
  simp only [matches_nameStart_iff, matches_many_letter_iff matches_namePart_iff]
  cases s with
  | nil => simp [isIdentifier]
  | cons c rest =>
    rw [isIdentifier, Bool.and_eq_true]
    constructor
    · rintro ⟨_, back, same, ⟨d, rfl, start⟩, parts⟩
      obtain ⟨rfl, rfl⟩ := List.cons.inj same
      exact ⟨start, parts⟩
    · rintro ⟨start, parts⟩
      exact ⟨[c], rest, rfl, ⟨c, rfl, start⟩, parts⟩

/-- The pattern is that of identifiers with dots between, or of nothing. -/
theorem matches_dotted_iff {s : List Char} : Matches dotted s ↔ IsDotted s := by
  unfold dotted
  rw [matches_maybe_iff, matches_seq_iff]
  simp only [matches_identifier_iff, matches_many_iff, matches_seq_iff, matches_literal_iff]
  constructor
  · rintro (rfl | ⟨first, back, rfl, start, pieces, rfl, each⟩)
    · exact ⟨[], by simp, rfl⟩
    · have names : ∃ names : List (List Char), (∀ name ∈ names, isIdentifier name = true) ∧
          pieces.flatten = names.flatMap ('.' :: ·) := by
        induction pieces with
        | nil => exact ⟨[], by simp, rfl⟩
        | cons piece pieces ih =>
          obtain ⟨⟨_, name, rfl, rfl, identifier⟩, others⟩ := List.forall_mem_cons.mp each
          obtain ⟨names, all, same⟩ := ih others
          refine ⟨name :: names, List.forall_mem_cons.mpr ⟨identifier, all⟩, ?_⟩
          rw [List.flatten_cons, same]
          rfl
      obtain ⟨names, all, same⟩ := names
      refine ⟨first :: names, List.forall_mem_cons.mpr ⟨start, all⟩, ?_⟩
      rw [same, intercalate_dots]
  · rintro ⟨names, all, rfl⟩
    cases names with
    | nil => exact .inl rfl
    | cons first names =>
      obtain ⟨start, others⟩ := List.forall_mem_cons.mp all
      refine .inr ⟨first, names.flatMap ('.' :: ·), ?_, start, names.map ('.' :: ·), ?_, ?_⟩
      · exact intercalate_dots first names
      · exact List.flatMap_def
      · intro piece member
        obtain ⟨name, among, rfl⟩ := List.mem_map.mp member
        exact ⟨['.'], name, rfl, rfl, others name among⟩

/-- A pattern is found between the two ends of a text, where the end of a text is also that of its last line,
in front of a line feed. -/
def IsFound (pattern : Pattern) (text : List Char) : Prop :=
  ∃ front, (text = front ∨ text = front ++ ['\n']) ∧ Matches pattern front

end Pattern

/-- The rule for dotted names passes what the pattern in its wording is found in. -/
theorem isDottedName_iff_isFound {text : List Char} :
    isDottedName text = true ↔ Pattern.dotted.IsFound text := by
  rw [isDottedName_iff]
  unfold Pattern.IsFound
  simp only [Pattern.matches_dotted_iff]
  constructor
  · rintro (dotted | ⟨front, same, dotted⟩)
    · exact ⟨text, .inl rfl, dotted⟩
    · exact ⟨front, .inr same, dotted⟩
  · rintro ⟨front, rfl | same, dotted⟩
    · exact .inl dotted
    · exact .inr ⟨front, same, dotted⟩

/-! ## What documents say -/

namespace Document

open Schema

/-- The schema that documents are checked against is the one that the document of it states. -/
theorem compile_schemaValue :
    compile [] schemaValue = .ok (schema, [("urn:implementor:interface-descriptor:1", schema)]) := rfl

def IsText (value : Value) : Prop := ∃ text, value = .text text

/-- A value is a text that is not empty. -/
def IsNonempty (value : Value) : Prop := ∃ text, value = .text text ∧ text ≠ ""

def IsFlag (value : Value) : Prop := ∃ flag, value = .boolean flag

/-- A value is a list of values of some form. -/
def IsListOf (form : Value → Prop) (value : Value) : Prop :=
  ∃ items, value = .list items ∧ ∀ item ∈ items, form item

/-- There is a field of a name and some form. -/
def Has (fields : Fields) (name : String) (form : Value → Prop) : Prop :=
  ∃ value, Fields.get? fields name = some value ∧ form value

/-- If there is a field of a name, it is of some form. -/
def MayHave (fields : Fields) (name : String) (form : Value → Prop) : Prop :=
  ∀ value, Fields.get? fields name = some value → form value

/-- A value is a table that has no fields but those of some names. -/
def IsTableOf (names : List String) (form : Fields → Prop) (value : Value) : Prop :=
  ∃ fields, value = .table fields ∧ (∀ name ∈ Fields.names fields, name ∈ names) ∧ form fields

/-- What is said of a parameter. -/
structure SaysParameter (fields : Fields) : Prop where
  type : Has fields "type" IsNonempty
  name : Has fields "name" IsNonempty

def IsParameter : Value → Prop := IsTableOf ["type", "name"] SaysParameter

/-- What is said of a method. -/
structure SaysMethod (fields : Fields) : Prop where
  name : Has fields "name" IsNonempty
  returnType : Has fields "return_type" IsNonempty
  isAbstract : MayHave fields "abstract" IsFlag
  parameters : MayHave fields "parameters" (IsListOf IsParameter)

def IsMethod : Value → Prop := IsTableOf ["name", "return_type", "abstract", "parameters"] SaysMethod

/-- What is said of a type whose package is of some form. -/
structure SaysType (package : List Char → Prop) (fields : Fields) : Prop where
  package : MayHave fields "package" fun value => ∃ text, value = .text text ∧ package text.toList
  simpleName : Has fields "simple_name" IsNonempty
  canonicalName : MayHave fields "canonical_name" IsText
  kind : MayHave fields "kind" fun value => ∃ name ∈ kindNames, value = .text name
  isPrivate : MayHave fields "private" IsFlag
  codeSource : MayHave fields "code_source" IsText
  methods : Has fields "methods" (IsListOf IsMethod)

/-- A value describes a type whose package is of some form. -/
def IsType (package : List Char → Prop) : Value → Prop :=
  IsTableOf ["package", "simple_name", "canonical_name", "kind", "private", "code_source", "methods"]
    (SaysType package)

variable {fields : Fields} {name : String} {value : Value}

theorem nameSchema_iff : nameSchema.violations value = [] ↔ IsNonempty value := by
  unfold nameSchema
  rw [rules_iff]
  simp only [List.forall_mem_cons, List.not_mem_nil, false_implies, implies_true, and_true]
  constructor
  · rintro ⟨kind, length⟩
    obtain ⟨text, rfl⟩ := text_of_kind kind
    refine ⟨text, rfl, ?_⟩
    rintro rfl
    cases length
  · rintro ⟨text, rfl, some_text⟩
    have length : ¬ text.length < 1 := by
      intro short
      exact some_text (String.length_eq_zero_iff.mp (by omega))
    exact ⟨rfl, by rw [Rule.violations, if_neg length]⟩

theorem textSchema_iff : textSchema.violations value = [] ↔ IsText value := by
  unfold textSchema
  rw [rules_iff]
  simp only [List.forall_mem_cons, List.not_mem_nil, false_implies, implies_true, and_true]
  constructor
  · exact text_of_kind
  · rintro ⟨text, rfl⟩
    rfl

theorem flagSchema_iff : flagSchema.violations value = [] ↔ IsFlag value := by
  unfold flagSchema
  rw [rules_iff]
  simp only [List.forall_mem_cons, List.not_mem_nil, false_implies, implies_true, and_true]
  constructor
  · intro kind
    cases value with
    | boolean flag => exact ⟨flag, rfl⟩
    | _ => cases kind
  · rintro ⟨flag, rfl⟩
    rfl

theorem packageSchema_iff :
    (Schema.rules [.kind [.string], .dottedName]).violations value = [] ↔
      ∃ text, value = .text text ∧ PassesDotted text.toList := by
  rw [rules_iff]
  simp only [List.forall_mem_cons, List.not_mem_nil, false_implies, implies_true, and_true]
  constructor
  · rintro ⟨kind, dotted⟩
    obtain ⟨text, rfl⟩ := text_of_kind kind
    refine ⟨text, rfl, isDottedName_iff.mp ?_⟩
    by_contra other
    rw [Rule.violations, if_neg other] at dotted
    cases dotted
  · rintro ⟨text, rfl, passes⟩
    refine ⟨rfl, ?_⟩
    rw [Rule.violations, if_pos (isDottedName_iff.mpr passes)]

theorem has_iff {form : Value → Prop} :
    Has fields name form ↔ (∃ value, Fields.get? fields name = some value) ∧ MayHave fields name form := by
  constructor
  · rintro ⟨value, found, good⟩
    refine ⟨⟨value, found⟩, fun other there => ?_⟩
    obtain rfl := Option.some.inj (found.symm.trans there)
    exact good
  · rintro ⟨⟨value, found⟩, all⟩
    exact ⟨value, found, all value found⟩

theorem parameterSchema_iff : parameterSchema.violations value = [] ↔ IsParameter value := by
  unfold parameterSchema
  rw [table_iff]
  refine exists_congr fun fields => and_congr_right fun _ => ?_
  simp only [List.forall_mem_cons, List.not_mem_nil, false_implies, implies_true, and_true, nameSchema_iff]
  constructor
  · rintro ⟨⟨type, name⟩, only, of_type, of_name⟩
    exact ⟨only, has_iff.mpr ⟨type, of_type⟩, has_iff.mpr ⟨name, of_name⟩⟩
  · rintro ⟨only, said⟩
    obtain ⟨type, of_type⟩ := has_iff.mp said.type
    obtain ⟨name, of_name⟩ := has_iff.mp said.name
    exact ⟨⟨type, name⟩, only, of_type, of_name⟩

theorem methodSchema_iff : methodSchema.violations value = [] ↔ IsMethod value := by
  unfold methodSchema
  rw [table_iff]
  refine exists_congr fun fields => and_congr_right fun _ => ?_
  simp only [List.forall_mem_cons, List.not_mem_nil, false_implies, implies_true, and_true, nameSchema_iff,
    flagSchema_iff, list_iff, parameterSchema_iff]
  constructor
  · rintro ⟨⟨name, returned⟩, only, of_name, of_returned, of_abstract, of_parameters⟩
    exact ⟨only, has_iff.mpr ⟨name, of_name⟩, has_iff.mpr ⟨returned, of_returned⟩, of_abstract, of_parameters⟩
  · rintro ⟨only, said⟩
    obtain ⟨name, of_name⟩ := has_iff.mp said.name
    obtain ⟨returned, of_returned⟩ := has_iff.mp said.returnType
    exact ⟨⟨name, returned⟩, only, of_name, of_returned, said.isAbstract, said.parameters⟩

/-- The schema of descriptor documents asks for what describes a type. -/
theorem schema_iff : schema.violations value = [] ↔ IsType PassesDotted value := by
  unfold schema
  rw [table_iff]
  refine exists_congr fun fields => and_congr_right fun _ => ?_
  simp only [List.forall_mem_cons, List.not_mem_nil, false_implies, implies_true, and_true, nameSchema_iff,
    textSchema_iff, flagSchema_iff, packageSchema_iff, choice_iff, list_iff, methodSchema_iff]
  constructor
  · rintro ⟨⟨simple, methods⟩, only, of_package, of_simple, of_canonical, of_kind, of_private, of_source,
      of_methods⟩
    exact ⟨only, of_package, has_iff.mpr ⟨simple, of_simple⟩, of_canonical, of_kind, of_private, of_source,
      has_iff.mpr ⟨methods, of_methods⟩⟩
  · rintro ⟨only, said⟩
    obtain ⟨simple, of_simple⟩ := has_iff.mp said.simpleName
    obtain ⟨methods, of_methods⟩ := has_iff.mp said.methods
    exact ⟨⟨simple, methods⟩, only, said.package, of_simple, said.canonicalName, said.kind, said.isPrivate,
      said.codeSource, of_methods⟩

/-! ## Accepted documents -/

variable {base : Option Path} {type : Interface}

/-- A document is accepted if it follows the schema, and then describes a type. -/
theorem interface_eq_ok_iff :
    interface base value = .ok type ↔ schema.violations value = [] ∧ describedBy base value = type := by
  have sorted : (violations value).isEmpty = (schema.violations value).isEmpty := by
    rw [Bool.eq_iff_iff, List.isEmpty_iff, List.isEmpty_iff]
    have perm : (violations value).Perm (schema.violations value) := List.mergeSort_perm _ _
    exact ⟨fun none => List.perm_nil.mp (none ▸ perm.symm), fun none => List.perm_nil.mp (none ▸ perm)⟩
  unfold interface
  dsimp only
  rw [sorted]
  cases schema.violations value with
  | nil => simp
  | cons violation more => simp

theorem exists_interface_iff : (∃ type, interface base value = .ok type) ↔ IsType PassesDotted value := by
  rw [← schema_iff]
  constructor
  · rintro ⟨type, accepted⟩
    exact (interface_eq_ok_iff.mp accepted).1
  · intro follows
    exact ⟨describedBy base value, interface_eq_ok_iff.mpr ⟨follows, rfl⟩⟩

theorem violations_of_interface {found : List Violation} (refused : interface base value = .error found) :
    found ≠ [] := by
  unfold interface at refused
  dsimp only at refused
  split at refused
  · cases refused
  · next some_violation =>
    obtain rfl := Except.error.inj refused
    simpa using some_violation

/-- A document is refused with all of its violations. -/
theorem found_of_interface {found : List Violation} (refused : interface base value = .error found) :
    found = violations value := by
  unfold interface at refused
  dsimp only at refused
  split at refused
  · cases refused
  · exact (Except.error.inj refused).symm

/-- The form of a package does not matter for the rest of a document. -/
theorem IsType.of_package {package other : List Char → Prop} (described : IsType package value)
    (each : ∀ text, value.field? "package" = some (.text text) → package text.toList → other text.toList) :
    IsType other value := by
  obtain ⟨fields, rfl, only, said⟩ := described
  refine ⟨fields, rfl, only, { said with package := ?_ }⟩
  intro value found
  obtain ⟨text, rfl, good⟩ := said.package value found
  exact ⟨text, rfl, each text found good⟩

/-- A document is accepted exactly if it has the form of a described type, where the package may also be a dotted
name with a line feed behind it, and any other is refused with what is wrong with it. So where the package does
not end in a line feed, it is a dotted name. -/
theorem interface_accepts (base : Option Path) (value : Value) :
    ((∃ type, interface base value = .ok type) ↔ IsType PassesDotted value) ∧
    (¬ IsType PassesDotted value →
      ∃ violations, violations ≠ [] ∧ interface base value = .error violations) ∧
    ((∀ text, value.field? "package" = some (.text text) → text.toList.getLast? ≠ some '\n') →
      ((∃ type, interface base value = .ok type) ↔ IsType IsDotted value)) := by
  refine ⟨exists_interface_iff, fun other => ?_, fun ended => ?_⟩
  · cases answer : interface base value with
    | ok type => exact absurd (exists_interface_iff.mp ⟨type, answer⟩) other
    | error found => exact ⟨found, violations_of_interface answer, rfl⟩
  · rw [exists_interface_iff]
    constructor
    · intro described
      refine described.of_package fun text found passes => ?_
      rcases passes with dotted | ⟨front, same, -⟩
      · exact dotted
      · exact absurd (by rw [same, List.getLast?_concat]) (ended text found)
    · intro described
      exact described.of_package fun text _ dotted => .inl dotted

/-- A document whose package ends in a line feed. -/
def endingInLine : Value :=
  .table [("package", .text "geo\n"), ("simple_name", .text "Shape"), ("methods", .list [])]

/-- Such a document is accepted, though its package is no dotted name. -/
theorem lineFeed_passes :
    (∃ type, interface none endingInLine = .ok type) ∧ ¬ IsType IsDotted endingInLine := by
  constructor
  · have follows : (schema.violations endingInLine).isEmpty = true := by decide +kernel
    exact ⟨_, interface_eq_ok_iff.mpr ⟨List.isEmpty_iff.mp follows, rfl⟩⟩
  · rintro ⟨fields, same, -, said⟩
    obtain rfl := Value.table.inj same
    obtain ⟨text, same, dotted⟩ := said.package _ rfl
    obtain rfl := Value.text.inj same
    exact absurd (isDottedIdentifiers_iff.mpr dotted) (by decide)

end Document
end JavaStubs

import JavaStubs.Proofs.Descriptor.Form
import JavaStubs.Proofs.Files.Lexical
import JavaStubs.Proofs.Implementor.Failing
import JavaStubs.Proofs.Text.Digits

/-!
Where source files of described types are placed. The packages of a type that a document describes are names of
directories. Its simple name may be any text, so that only where that does not lead up, or away, the file lies
inside of the output root.
-/
namespace JavaStubs

/-! ## Documents -/

namespace Value

variable {fields : Fields} {name text default : String}

theorem textField_of_text (found : Fields.get? fields name = some (.text text)) :
    (Value.table fields).textField name default = text := by
  rw [textField, field?, found]

theorem textField_of_none (none : Fields.get? fields name = none) :
    (Value.table fields).textField name default = default := by
  rw [textField, field?, none]

end Value

namespace Document

variable {base : Option Path} {value : Value} {type : Interface}

/-- The package of a described type is a dotted name, and its simple name is some text. -/
theorem names_of_accepted (accepted : interface base value = .ok type) :
    isDottedName type.package.toList = true ∧ type.simpleName ≠ "" := by
  obtain ⟨follows, rfl⟩ := interface_eq_ok_iff.mp accepted
  obtain ⟨fields, rfl, -, said⟩ := schema_iff.mp follows
  constructor
  · change isDottedName ((Value.table fields).textField "package" "").toList = true
    cases found : Fields.get? fields "package" with
    | none =>
      rw [Value.textField_of_none found]
      rfl
    | some value =>
      obtain ⟨text, rfl, passes⟩ := said.package value found
      rw [Value.textField_of_text found]
      exact isDottedName_iff.mpr passes
  · obtain ⟨value, found, text, rfl, some_text⟩ := said.simpleName
    change (Value.table fields).textField "simple_name" "" ≠ ""
    rwa [Value.textField_of_text found]

end Document

/-! ## Packages -/

section Packages

variable {text field : List Char} {name package : String}

theorem solid_of_isIdentifier (identifier : isIdentifier field = true) : field ≠ [] ∧ '/' ∉ field := by
  refine ⟨?_, not_mem_of_isIdentifier (by decide) identifier⟩
  rintro rfl
  cases identifier

/-- A name with dots has no field that is empty or divided. -/
theorem solid_of_dotted (dotted : isDottedName text = true) (some_text : text ≠ [])
    (member : field ∈ Text.fields (· == '.') text) : field ≠ [] ∧ '/' ∉ field := by
  have of_identifiers {text field : List Char} (all : isDottedIdentifiers text = true) (some_text : text ≠ [])
      (member : field ∈ Text.fields (· == '.') text) : field ≠ [] ∧ '/' ∉ field := by
    unfold isDottedIdentifiers at all
    rw [Bool.or_eq_true, List.isEmpty_iff, List.all_eq_true] at all
    exact solid_of_isIdentifier ((all.resolve_left some_text) field member)
  unfold isDottedName at dotted
  rw [Bool.or_eq_true, Bool.and_eq_true, beq_iff_eq] at dotted
  rcases dotted with all | ⟨last, all⟩
  · exact of_identifiers all some_text member
  · obtain ⟨front, rfl⟩ : ∃ front, text = front ++ ['\n'] :=
      ⟨text.dropLast, (List.dropLast_append_getLast? '\n' last).symm⟩
    rw [List.dropLast_concat] at all
    by_cases none : front = []
    · subst none
      obtain rfl := List.mem_singleton.mp member
      exact ⟨List.cons_ne_nil _ _, by decide⟩
    · obtain ⟨fields, final, before⟩ := Text.exists_last_field (· == '.') front
      rw [Text.fields_append before (show Text.fields (· == '.') ['\n'] = ['\n'] :: [] from rfl)] at member
      rcases List.mem_append.mp member with inside | same
      · exact of_identifiers all none (before ▸ List.mem_append_left _ inside)
      · obtain rfl := List.mem_singleton.mp same
        obtain ⟨-, undivided⟩ := of_identifiers all none (before ▸ List.mem_append_right _ List.mem_cons_self)
        refine ⟨by simp, fun member => ?_⟩
        rcases List.mem_append.mp member with member | member
        · exact undivided member
        · exact absurd (List.mem_singleton.mp member) (by decide)

/-- Each field of a dotted name is a name for a directory. -/
theorem isName_of_dotted (dotted : isDottedName package.toList = true) (some_package : package ≠ "")
    (member : name ∈ Text.fieldsOf '.' package) : Path.IsName name := by
  obtain ⟨field, inside, rfl⟩ := List.mem_map.mp member
  have some_text : package.toList ≠ [] := fun none => some_package (String.toList_inj.mp (by simpa using none))
  obtain ⟨some_field, undivided⟩ := solid_of_dotted dotted some_text inside
  have no_dot : '.' ∉ field := Path.undivided_of_mem_fields inside
  refine ⟨fun same => ?_, fun same => ?_, fun same => ?_, by simpa using undivided⟩
  · exact some_field (by simpa using congrArg String.toList same)
  · have dot : field = ['.'] := by simpa using congrArg String.toList same
    exact no_dot (dot ▸ List.mem_cons_self)
  · have dots : field = ['.', '.'] := by simpa using congrArg String.toList same
    exact no_dot (dots ▸ List.mem_cons_self)

end Packages

/-! ## Settings -/

namespace Binary64

theorem decimalText_ne_nil (digits : Nat) (power : Int) : decimalText digits power ≠ [] := by
  unfold decimalText
  dsimp only
  split
  · unfold positionalText
    split <;> simp
  · simp [exponentText]

theorem text_ne_empty (x : Binary64) : x.text ≠ "" := by
  unfold text
  split
  · decide
  · split <;> decide
  · next negative m q reading =>
    intro none
    have chars := congrArg String.toList none
    dsimp only at chars
    rw [String.toList_ofList] at chars
    split at chars
    · cases chars
    · split at chars
      · cases chars
      · exact decimalText_ne_nil _ _ chars

end Binary64

theorem Moment.text_ne_empty (moment : Moment) : moment.text ≠ "" := by
  intro none
  have chars := congrArg String.toList none
  cases moment with
  | date day => simp [Moment.text, Day.text] at chars
  | clock time => simp [Moment.text, DayTime.text] at chars
  | full day time ahead => simp [Moment.text, Day.text] at chars

namespace Value

theorem toString_ne_empty (n : Int) : toString n ≠ "" := by
  intro none
  have chars := congrArg String.toList none
  cases n with
  | ofNat n =>
    have digits : (toString (Int.ofNat n)).toList = Nat.toDigits 10 n := Nat.toList_repr
    rw [digits] at chars
    exact Nat.toDigits_ne_nil chars
  | negSucc n =>
    change ("-" ++ Nat.repr (n + 1)).toList = _ at chars
    simp at chars

/-- A value that is not vacant is written as some text. -/
theorem plain_ne_empty {value : Value} (given : value.isVacant = false) : value.plain ≠ "" := by
  intro none
  have chars := congrArg String.toList none
  cases value with
  | null => cases given
  | boolean b => cases b <;> cases chars
  | integer n => exact toString_ne_empty n none
  | real x => exact x.text_ne_empty none
  | text s => simp [isVacant, plain] at given none; exact given none
  | moment moment => exact moment.text_ne_empty none
  | list items => simp [plain, shown] at chars
  | table fields => simp [plain, shown] at chars

end Value

/-- The suffix of settings that are accepted is some text. -/
theorem Settings.implSuffix_of_load {config overrides : Fields} {environment : Environment}
    {settings : Settings} (loaded : Settings.load config environment overrides = .ok settings) :
    settings.implSuffix ≠ "" := by
  obtain ⟨configured, -, loaded⟩ := bind_eq_ok loaded
  unfold ofValues at loaded
  obtain ⟨enabled, -, loaded⟩ := bind_eq_ok loaded
  dsimp only at loaded
  split at loaded
  · cases loaded
  · next given =>
    obtain ⟨suffix, text, loaded⟩ := bind_eq_ok loaded
    obtain ⟨indent, -, loaded⟩ := bind_eq_ok loaded
    obtain ⟨sourceExtension, -, loaded⟩ := bind_eq_ok loaded
    obtain ⟨classExtension, -, loaded⟩ := bind_eq_ok loaded
    obtain ⟨tempPrefix, -, loaded⟩ := bind_eq_ok loaded
    obtain ⟨javac, -, loaded⟩ := bind_eq_ok loaded
    split at loaded
    · obtain ⟨javacArgs, -, loaded⟩ := bind_eq_ok loaded
      obtain ⟨javap, -, loaded⟩ := bind_eq_ok loaded
      split at loaded
      · obtain rfl := Except.ok.inj loaded
        unfold textOf at text
        split at text
        · rw [← Except.ok.inj text]
          exact Value.plain_ne_empty (by simpa using given)
        · cases text
      · cases loaded
    · cases loaded

/-! ## Destinations -/

namespace Implementor

open Implementation (packageNames className)
open JavaStubs.Path (IsInside IsName staysBelow namesOf)

variable {settings : Settings} {type : Interface}

theorem isName_packageNames (dotted : isDottedName type.package.toList = true) :
    ∀ name ∈ packageNames type, IsName name := by
  intro name member
  unfold packageNames at member
  split at member
  · cases member
  · next some_package => exact isName_of_dotted dotted (by simpa using some_package) member

/-- The path of a source file from its output root on. -/
def placeBelow (settings : Settings) (type : Interface) : Path :=
  Path.child ⟨.here, packageNames type⟩ (sourceName settings type)

theorem destination_eq_join (named : ∀ name ∈ packageNames type, IsName name) (root : Path) :
    destination settings type root = root.join (placeBelow settings type) := by
  rw [destination_eq, Disk.pathBelow_eq named, placeBelow, Path.child, Path.child, ← Path.join_assoc]
  rfl

/-- The names of a source file stay below its output root. -/
def StaysInside (settings : Settings) (type : Interface) : Prop :=
  (Path.ofText (sourceName settings type)).isAbsolute = false ∧
    staysBelow (packageNames type).length (namesOf (sourceName settings type)) = true

theorem destination_isInside_iff (named : ∀ name ∈ packageNames type, IsName name) :
    (∀ root, IsInside root (destination settings type root)) ↔ StaysInside settings type := by
  have plain : ".." ∉ packageNames type := fun member => (named ".." member).not_dots rfl
  simp only [destination_eq_join named]
  rw [Path.isInside_join_iff, placeBelow, Path.child, Path.join, StaysInside]
  by_cases absolute : (Path.ofText (sourceName settings type)).isAbsolute = true
  · rw [if_pos absolute, absolute]
    exact iff_of_false (by simp) (by simp)
  · have relative : (Path.ofText (sourceName settings type)).isAbsolute = false := by simpa using absolute
    rw [if_neg absolute, Path.staysBelow_append plain, Nat.zero_add]
    exact and_congr (iff_of_true rfl relative) Iff.rfl

/-- A file whose name is that of a file in a directory stays inside. -/
theorem staysInside_of_isName (named : IsName (sourceName settings type)) : StaysInside settings type := by
  have path := Path.ofText_name named
  have names : namesOf (sourceName settings type) = [sourceName settings type] := congrArg Path.names path
  refine ⟨by rw [path]; rfl, ?_⟩
  rw [names, Path.staysBelow_cons named.not_dots, Path.staysBelow]
  exact decide_eq_true (Nat.succ_pos _)

theorem isName_sourceName_of_undivided (some_simple : type.simpleName ≠ "") (some_suffix : settings.implSuffix ≠ "")
    (simple : '/' ∉ type.simpleName.toList) (suffix : '/' ∉ settings.implSuffix.toList)
    (extension : '/' ∉ settings.sourceExtension.toList) (not_dots : sourceName settings type ≠ "..") :
    IsName (sourceName settings type) := by
  have chars : (sourceName settings type).toList =
      type.simpleName.toList ++ settings.implSuffix.toList ++ settings.sourceExtension.toList := by
    simp [sourceName, className]
  have nonempty {text : String} (some_text : text ≠ "") : 0 < text.toList.length :=
    List.length_pos_of_ne_nil fun none => some_text (String.toList_inj.mp (by simpa using none))
  have length : 1 < (sourceName settings type).toList.length := by
    have first := nonempty some_simple
    have second := nonempty some_suffix
    rw [chars, List.length_append, List.length_append]
    omega
  have longer {text : String} (short : text.toList.length ≤ 1) : sourceName settings type ≠ text := by
    rintro same
    rw [same] at length
    omega
  refine ⟨longer (by decide), longer (by decide), not_dots, ?_⟩
  rw [chars]
  simp only [List.mem_append, not_or]
  exact ⟨⟨simple, suffix⟩, extension⟩

/-- The path that is resolved for a source file is its destination. -/
theorem resolveDestination_ends (settings : Settings) (type : Interface) (root : Path) (world : World) :
    Ends (resolveDestination settings type root) world fun r _ =>
      ∀ path, r = .ok path → path = destination settings type root := by
  unfold resolveDestination
  dsimp only
  rw [Ends.bind_iff]
  obtain ⟨r, after, run⟩ := Ends.exists_run (Job.refused
    (Job.onDisk (Disk.makeDirectories (destination settings type root).parent)) fun fault =>
      .stage (.noDirectory (destination settings type root).parent fault)) world
  rw [Ends.of_run run]
  cases r with
  | error fault => exact nofun
  | ok _ =>
    intro path same
    exact (Except.ok.inj same).symm

/-- For a type that a document describes, the source file is placed inside of every output root exactly if its
name is relative and never leads further up than the packages lead down; and it does not unless there is a
separator in the simple name, or the name is that of the directory above. -/
theorem destination_isInside {base : Option Path} {value : Value} {config overrides : Fields}
    {environment : Environment} (accepted : Document.interface base value = .ok type)
    (loaded : Settings.load config environment overrides = .ok settings)
    (suffix : '/' ∉ settings.implSuffix.toList) (extension : '/' ∉ settings.sourceExtension.toList) :
    (∀ (root : Path) (world : World), Ends (resolveDestination settings type root) world fun r _ =>
      ∀ path, r = .ok path → path = destination settings type root) ∧
    ((∀ root, IsInside root (destination settings type root)) ↔ StaysInside settings type) ∧
    ('/' ∉ type.simpleName.toList → sourceName settings type ≠ ".." → StaysInside settings type) := by
  obtain ⟨dotted, some_simple⟩ := Document.names_of_accepted accepted
  have some_suffix := Settings.implSuffix_of_load loaded
  refine ⟨resolveDestination_ends settings type, destination_isInside_iff (isName_packageNames dotted), ?_⟩
  intro simple not_dots
  exact staysInside_of_isName
    (isName_sourceName_of_undivided some_simple some_suffix simple suffix extension not_dots)

/-! ### Two documents -/

/-- A document that gives a type no more than its names. -/
def naming (package simpleName : String) : Value :=
  .table [("package", .text package), ("simple_name", .text simpleName), ("canonical_name", .text "Named"),
    ("methods", .list [])]

/-- The type that such a document describes. -/
def named (package simpleName : String) : Interface :=
  .describe package simpleName "Named" [] true false none

/-- The settings without a configuration file. -/
def standard : Settings :=
  ⟨"Impl", "   ", ".java", ".class", "temp", "javac", [], "javap", false, .ofText "logs/implementor"⟩

theorem load_standard : Settings.load Config.defaults [] [] = .ok standard :=
  eq_ok_of_toOption (by decide +kernel)

theorem destination_isInside_geo : Document.interface none (naming "geo" "Shape") = .ok (named "geo" "Shape") ∧
    Settings.load Config.defaults [] [] = .ok standard ∧
    '/' ∉ standard.implSuffix.toList ∧ '/' ∉ standard.sourceExtension.toList ∧
    '/' ∉ (named "geo" "Shape").simpleName.toList ∧ sourceName standard (named "geo" "Shape") ≠ ".." ∧
    ∀ root, IsInside root (destination standard (named "geo" "Shape") root) := by
  have follows : (Document.schema.violations (naming "geo" "Shape")).isEmpty = true := by decide +kernel
  have accepted : Document.interface none (naming "geo" "Shape") = .ok (named "geo" "Shape") :=
    Document.interface_eq_ok_iff.mpr ⟨List.isEmpty_iff.mp follows, rfl⟩
  have suffix : '/' ∉ standard.implSuffix.toList := by decide
  have extension : '/' ∉ standard.sourceExtension.toList := by decide
  have simple : '/' ∉ (named "geo" "Shape").simpleName.toList := by decide
  have not_dots : sourceName standard (named "geo" "Shape") ≠ ".." := by decide
  obtain ⟨-, inside_iff, stays⟩ := destination_isInside accepted load_standard suffix extension
  exact ⟨accepted, load_standard, suffix, extension, simple, not_dots, inside_iff.mpr (stays simple not_dots)⟩

/-- The simple name of an accepted document leads out of the output root, and the source is written there. -/
theorem simpleName_escapes : Document.interface none (naming "" "../Evil") = .ok (named "" "../Evil") ∧
    Settings.load Config.defaults [] [] = .ok standard ∧
    '/' ∉ standard.implSuffix.toList ∧ '/' ∉ standard.sourceExtension.toList ∧
    Ends (writeSource standard (named "" "../Evil") (.ofText "out")) nowhere (fun r after =>
      r.toOption = some (destination standard (named "" "../Evil") (.ofText "out")) ∧
      after.disk.tree.get? ["EvilImpl.java"] =
        some (.file (.ofText (sourceText standard (named "" "../Evil"))))) ∧
    ¬ IsInside (.ofText "out") (destination standard (named "" "../Evil") (.ofText "out")) := by
  have follows : (Document.schema.violations (naming "" "../Evil")).isEmpty = true := by decide +kernel
  have accepted : Document.interface none (naming "" "../Evil") = .ok (named "" "../Evil") :=
    Document.interface_eq_ok_iff.mpr ⟨List.isEmpty_iff.mp follows, rfl⟩
  refine ⟨accepted, load_standard, by decide, by decide, ?_, ?_⟩
  · unfold Ends
    decide +kernel
  · have normal : (destination standard (named "" "../Evil") (.ofText "out")).normal.names =
        ["EvilImpl.java"] := by decide +kernel
    have root : (Path.ofText "out").normal.names = ["out"] := by decide +kernel
    rintro ⟨-, rest, -, -, same⟩
    rw [normal, root] at same
    exact absurd (List.cons.inj same).1 (by decide)

end Implementor
end JavaStubs

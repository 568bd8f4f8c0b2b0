import JavaStubs.Config.Settings
import JavaStubs.Proofs.Jobs
import JavaStubs.Proofs.Text.Trimming
import JavaStubs.Proofs.Value.Fields

/-!
Settings from their layers. Each of the ten settings has one effective value: that of the caller's
overrides, else that of the environment, else that of the configuration. Whether settings come of the
layers, which ones, and with which fault they do not, depends on the effective values alone.
-/
namespace JavaStubs

open Text (isBlank trim)

/-! ## Merging -/

namespace Config

variable {base fields config : Fields} {name : String}

/-- A field of merged fields. -/
theorem get?_merge (distinct : (Fields.names fields).Nodup) (name : String) :
    Fields.get? (merge base fields) name =
      ((Fields.get? fields name).map (mergeValue (Fields.get? base name))).or (Fields.get? base name) := by
  induction fields generalizing base with
  | nil => rw [merge]; rfl
  | cons field rest ih =>
    obtain ⟨key, value⟩ := field
    obtain ⟨new, distinct⟩ := List.nodup_cons.mp distinct
    rw [merge, ih distinct, Fields.get?_put]
    by_cases same : name = key
    · subst same
      rw [Fields.get?_of_notMem new, if_pos rfl]
      simp [Fields.get?]
    · have other : (name == key) = false := by simpa using same
      simp [same, Fields.get?, List.lookup_cons, other]

/-- What fields have is not lost when others are laid over them. -/
theorem isSome_get?_merge (there : (Fields.get? base name).isSome) :
    (Fields.get? (merge base fields) name).isSome := by
  induction fields generalizing base with
  | nil => rwa [merge]
  | cons field rest ih =>
    obtain ⟨key, value⟩ := field
    rw [merge]
    refine ih ?_
    rw [Fields.get?_put]
    split
    · rfl
    · exact there

/-- The way through tables, one step of it. -/
theorem find?_cons (value : Value) (name : String) (rest : List String) :
    find? value (name :: rest) = (value.field? name).bind (find? · rest) := by
  cases value with
  | table fields =>
    rw [find?, Value.field?]
    cases Fields.get? fields name with
    | none => rfl
    | some found => rfl
  | _ => rfl

theorem find?_nil (value : Value) : find? value [] = some value := by
  cases value <;> rfl

theorem find?_single (value : Value) (name : String) : find? value [name] = value.field? name := by
  rw [find?_cons, funext find?_nil, Option.bind_fun_some]

theorem valueAt_of_find? {path : String} {names : List String} {value : Value}
    (cut : Text.fieldsOf '.' path = names) (found : find? (.table config) names = some value) :
    valueAt config path .null = .ok value := by
  rw [valueAt, cut, found]

end Config

namespace Settings

/-! ## Settings and where their values come from -/

/-- The settings. -/
inductive Setting where
  | implSuffix
  | indent
  | sourceExtension
  | classExtension
  | tempPrefix
  | javac
  | javacArgs
  | javap
  | journalEnabled
  | journalDir
  deriving DecidableEq, Repr

namespace Setting

/-- The name by which a caller overrides a setting. -/
def name : Setting → String
  | implSuffix => "impl_suffix"
  | indent => "indent"
  | sourceExtension => "source_extension"
  | classExtension => "class_extension"
  | tempPrefix => "temp_prefix"
  | javac => "javac"
  | javacArgs => "javac_args"
  | javap => "javap"
  | journalEnabled => "journal_enabled"
  | journalDir => "journal_dir"

/-- The table of a configuration that holds a setting. -/
def table : Setting → String
  | implSuffix | indent | sourceExtension | classExtension | tempPrefix => "implementor"
  | javac | javacArgs => "compiler"
  | javap => "introspector"
  | journalEnabled | journalDir => "journal"

/-- The name of a setting in its table. -/
def key : Setting → String
  | javac | javap => "command"
  | javacArgs => "extra_args"
  | journalEnabled => "enabled"
  | journalDir => "dir"
  | setting => setting.name

/-- The path of a setting in a configuration. -/
def path (setting : Setting) : String := setting.table ++ "." ++ setting.key

/-- The variable of the environment that gives a setting, if there is one. -/
def variableName? : Setting → Option String
  | javac => some "IMPLEMENTOR_JAVAC"
  | javap => some "IMPLEMENTOR_JAVAP"
  | implSuffix => some "IMPLEMENTOR_IMPL_SUFFIX"
  | journalEnabled => some "IMPLEMENTOR_JOURNAL_ENABLED"
  | journalDir => some "IMPLEMENTOR_JOURNAL_DIR"
  | _ => none

/-- The kinds of value that a setting takes: a list of texts for the compiler's arguments, a boolean or a
text for the switch of the journal, and a text for every other one. -/
def Admits : Setting → Value → Prop
  | javacArgs, value => ∃ texts : List String, value = .list (texts.map .text)
  | journalEnabled, value => (∃ on, value = .boolean on) ∨ ∃ text, value = .text text
  | _, value => ∃ text, value = .text text

/-- The settings in the table of the implementor. -/
def own : List Setting := [implSuffix, indent, sourceExtension, classExtension, tempPrefix]

/-- The settings in other tables. -/
def others : List Setting := [javac, javacArgs, javap, journalEnabled, journalDir]

/-- All settings, in the order in which a configuration is asked for them. -/
def all : List Setting := own ++ others

theorem mem_all (setting : Setting) : setting ∈ all := by
  cases setting <;> decide

theorem nodup_names : (all.map name).Nodup := by decide

theorem implementorNames_eq : implementorNames = own.map name := rfl

theorem configured_eq : configured = others.map fun setting => (setting.name, setting.path) := by decide

theorem place_of_own : ∀ setting ∈ own, setting.table = "implementor" ∧ setting.key = setting.name := by decide

theorem fieldsOf_path : ∀ setting ∈ others,
    Text.fieldsOf '.' setting.path = [setting.table, setting.key] := by decide

/-- What the environment may give may be any text. -/
theorem admits_text {setting : Setting} {variableName : String}
    (given : setting.variableName? = some variableName) (text : String) : setting.Admits (.text text) := by
  cases setting with
  | javacArgs => cases given
  | journalEnabled => exact .inr ⟨text, rfl⟩
  | _ => exact ⟨text, rfl⟩

end Setting

/-- The layers of values. -/
structure Layers where
  /-- What the configuration file says. -/
  file : Fields
  environment : Environment
  overrides : Fields

namespace Layers

variable (layers : Layers)

/-- The configuration: the defaults with the file laid over them. -/
def config : Fields := Config.merge Config.defaults layers.file

/-- The value of a setting in the configuration. -/
def inConfig (setting : Setting) : Option Value :=
  (Fields.get? layers.config setting.table).bind (·.field? setting.key)

/-- The value of a setting in the environment: that of its variable, unless this is empty. -/
def inEnvironment (setting : Setting) : Option Value :=
  ((setting.variableName?.bind fun key => layers.environment.lookup key).filter (!·.isEmpty)).map .text

/-- The value of a setting among the overrides, unless this is null. -/
def inOverrides (setting : Setting) : Option Value :=
  (Fields.get? layers.overrides setting.name).filter (!· matches .null)

/-- The effective value of a setting: that of the uppermost layer that has one. -/
def value (setting : Setting) : Value :=
  ((layers.inOverrides setting).or ((layers.inEnvironment setting).or (layers.inConfig setting))).getD .null

def settings : Except Fault Settings := load layers.config layers.environment layers.overrides

/-- Layers whose values have the kinds that they should have: each setting has its table in the
configuration, with a value that it takes, and so do the overrides, where null stands for no value.
No field of the file and none of the overrides has the name of another one. -/
structure AreKinded : Prop where
  file_distinct : (Fields.names layers.file).Nodup
  tables : ∀ setting : Setting, ∃ fields, Fields.get? layers.config setting.table = some (.table fields)
  config : ∀ setting value, layers.inConfig setting = some value → setting.Admits value
  overrides_distinct : (Fields.names layers.overrides).Nodup
  overrides : ∀ setting value, layers.inOverrides setting = some value → setting.Admits value

end Layers

/-! ## What the effective values come to -/

/-- The words for a switch. -/
def wordsFor (on : Bool) : List String := if on then onWords else offWords

/-- The switch that a value is: a boolean, or a text with a word for one in any case and with blanks around
it. -/
inductive Switches : Value → Bool → Prop
  | boolean (on : Bool) : Switches (.boolean on) on
  | word {before word after : List Char} {on : Bool} (blank_before : ∀ c ∈ before, isBlank c = true)
      (blank_after : ∀ c ∈ after, isBlank c = true)
      (known : Text.lowerAscii (String.ofList word) ∈ wordsFor on) :
      Switches (.text (String.ofList (before ++ word ++ after))) on

/-- Settings each of which is the conversion of its value. -/
structure Converts (value : Setting → Value) (settings : Settings) : Prop where
  implSuffix : value .implSuffix = .text settings.implSuffix
  indent : value .indent = .text settings.indent
  sourceExtension : value .sourceExtension = .text settings.sourceExtension
  classExtension : value .classExtension = .text settings.classExtension
  tempPrefix : value .tempPrefix = .text settings.tempPrefix
  javac : value .javac = .text settings.javac
  javacArgs : value .javacArgs = .list (settings.javacArgs.map .text)
  javap : value .javap = .text settings.javap
  journalEnabled : Switches (value .journalEnabled) settings.journalEnabled
  journalDir : ∃ text, value .journalDir = .text text ∧ settings.journalDir = .ofText text

/-- What values of the settings come to: the fault of a journal without a switch, that of a vacant suffix, or
settings. -/
inductive Resolves (value : Setting → Value) : Except Fault Settings → Prop
  | noSwitch (unswitched : ∀ on, ¬ Switches (value .journalEnabled) on) :
      Resolves value (.error (.noSwitch (value .journalEnabled)))
  | noSuffix {on : Bool} (switched : Switches (value .journalEnabled) on)
      (vacant : value .implSuffix = .text "") : Resolves value (.error .noSuffix)
  | settings {settings : Settings} (converted : Converts value settings)
      (named : settings.implSuffix ≠ "") : Resolves value (.ok settings)

/-! ## Switches -/

theorem toLower_of_isBlank {c : Char} (blank : isBlank c = true) : c.toLower = c := by
  have small : ¬ (c.val ≥ 'A'.val ∧ c.val ≤ 'Z'.val) := by
    intro capital
    have capital_range : 65 ≤ c.toNat ∧ c.toNat ≤ 90 := capital
    simp [isBlank, Text.inRanges, Text.blankRanges] at blank
    omega
  exact dif_neg small

/-- No word for a switch has a blank. -/
theorem solid_of_known {word : List Char} {on : Bool}
    (known : Text.lowerAscii (String.ofList word) ∈ wordsFor on) : ∀ c ∈ word, isBlank c = false := by
  intro c member
  have solid_words : ∀ on, ∀ word ∈ wordsFor on, ∀ c ∈ word.toList, isBlank c = false := by decide
  by_contra blank
  have there : c ∈ (Text.lowerAscii (String.ofList word)).toList := by
    rw [Text.lowerAscii, String.toList_ofList, String.toList_ofList, List.mem_map]
    exact ⟨c, member, toLower_of_isBlank (by simpa using blank)⟩
  exact blank (solid_words on _ known c there)

theorem switch?_eq_some_iff {value : Value} {on : Bool} : switch? value = some on ↔ Switches value on := by
  have trimmed_known {s : String} {on : Bool}
      (known : Text.lowerAscii (Text.trimmed s) ∈ wordsFor on) : Switches (.text s) on := by
    obtain ⟨before, after, blank_before, blank_after, around⟩ := Text.exists_blank_around s.toList
    have whole : s = String.ofList (before ++ trim s.toList ++ after) := by
      rw [← around, String.ofList_toList]
    rw [whole]
    exact .word blank_before blank_after known
  constructor
  · intro found
    cases value with
    | boolean b =>
      obtain rfl := Option.some.inj found
      exact .boolean b
    | text s =>
      rw [switch?] at found
      split at found
      · next known =>
        obtain rfl := Option.some.inj found
        exact trimmed_known (List.contains_iff_mem.mp known)
      · split at found
        · next known =>
          obtain rfl := Option.some.inj found
          exact trimmed_known (List.contains_iff_mem.mp known)
        · cases found
    | _ => cases found
  · intro switched
    cases switched with
    | boolean on => rfl
    | word blank_before blank_after known =>
      have disjoint : ∀ word ∈ offWords, word ∉ onWords := by decide
      rw [switch?, Text.trimmed, String.toList_ofList,
        Text.trim_between blank_before blank_after (solid_of_known known)]
      cases on with
      | true => exact if_pos (List.contains_iff_mem.mpr known)
      | false =>
        have not_on := disjoint _ known
        rw [if_neg (by simpa using not_on)]
        exact if_pos (List.contains_iff_mem.mpr known)

theorem Switches.unique {value : Value} {first second : Bool} (one : Switches value first)
    (other : Switches value second) : first = second :=
  Option.some.inj ((switch?_eq_some_iff.mpr one).symm.trans (switch?_eq_some_iff.mpr other))

theorem switch?_eq_none_iff {value : Value} : switch? value = none ↔ ∀ on, ¬ Switches value on := by
  rw [Option.eq_none_iff_forall_ne_some]
  exact forall_congr' fun on => not_congr switch?_eq_some_iff

/-! ## One outcome -/

theorem Converts.unique {value : Setting → Value} {first second : Settings} (one : Converts value first)
    (other : Converts value second) : first = second := by
  obtain ⟨firstDir, dir, first_dir⟩ := one.journalDir
  obtain ⟨secondDir, also_dir, second_dir⟩ := other.journalDir
  have args : first.javacArgs.map Value.text = second.javacArgs.map Value.text :=
    Value.list.inj (one.javacArgs.symm.trans other.javacArgs)
  have same_text {setting : Setting} {a b : String} (left : value setting = .text a)
      (right : value setting = .text b) : a = b := Value.text.inj (left.symm.trans right)
  obtain rfl := same_text dir also_dir
  cases first
  cases second
  rw [Settings.mk.injEq]
  exact ⟨same_text one.implSuffix other.implSuffix, same_text one.indent other.indent,
    same_text one.sourceExtension other.sourceExtension, same_text one.classExtension other.classExtension,
    same_text one.tempPrefix other.tempPrefix, same_text one.javac other.javac,
    List.map_injective_iff.mpr (fun _ _ => Value.text.inj) args, same_text one.javap other.javap,
    one.journalEnabled.unique other.journalEnabled, first_dir.trans second_dir.symm⟩

theorem Resolves.unique {value : Setting → Value} {first second : Except Fault Settings}
    (one : Resolves value first) (other : Resolves value second) : first = second := by
  have some_suffix {settings : Settings} (converted : Converts value settings)
      (named : settings.implSuffix ≠ "") : value .implSuffix ≠ .text "" := by
    rw [converted.implSuffix]
    exact fun same => named (Value.text.inj same)
  cases one with
  | noSwitch unswitched =>
    cases other with
    | noSwitch _ => rfl
    | noSuffix switched _ => exact absurd switched (unswitched _)
    | settings converted _ => exact absurd converted.journalEnabled (unswitched _)
  | noSuffix switched vacant =>
    cases other with
    | noSwitch unswitched => exact absurd switched (unswitched _)
    | noSuffix _ _ => rfl
    | settings converted named => exact absurd vacant (some_suffix converted named)
  | settings converted named =>
    cases other with
    | noSwitch unswitched => exact absurd converted.journalEnabled (unswitched _)
    | noSuffix _ vacant => exact absurd vacant (some_suffix converted named)
    | settings also _ => rw [converted.unique also]

/-- Values come to no settings for want of a switch or of a suffix, and for no other reason. -/
theorem Resolves.isError_iff {value : Setting → Value} {result : Except Fault Settings}
    (resolved : Resolves value result) :
    (∃ fault, result = .error fault) ↔
      (∀ on, ¬ Switches (value .journalEnabled) on) ∨ value .implSuffix = .text "" := by
  cases resolved with
  | noSwitch unswitched => exact iff_of_true ⟨_, rfl⟩ (.inl unswitched)
  | noSuffix switched vacant => exact iff_of_true ⟨_, rfl⟩ (.inr vacant)
  | settings converted named =>
    refine iff_of_false nofun ?_
    rintro (unswitched | vacant)
    · exact unswitched _ converted.journalEnabled
    · rw [converted.implSuffix] at vacant
      exact named (Value.text.inj vacant)

/-! ## The values of the layers -/

namespace Layers

variable {layers : Layers}

theorem valueAt_path {setting : Setting} {value : Value} (other : setting ∈ Setting.others)
    (there : layers.inConfig setting = some value) :
    Config.valueAt layers.config setting.path .null = .ok value := by
  refine Config.valueAt_of_find? (Setting.fieldsOf_path setting other) ?_
  rw [Config.find?_cons, ← there, inConfig, Value.field?]
  exact Option.bind_congr fun table _ => Config.find?_single table setting.key

/-- A configuration gives the values that are found in it. -/
theorem ofConfig_eq {found : Setting → Value}
    (there : ∀ setting, layers.inConfig setting = some (found setting)) :
    ofConfig layers.config = .ok (Setting.all.map fun setting => (setting.name, found setting)) := by
  obtain ⟨implementor, table, -⟩ := Option.bind_eq_some_iff.mp (there .implSuffix)
  have table_there : Fields.get? layers.config "implementor" = some implementor := table
  have read : Config.valueAt layers.config "implementor" .null = .ok implementor := by
    have cut : Text.fieldsOf '.' "implementor" = ["implementor"] := by decide
    refine Config.valueAt_of_find? cut ?_
    rw [Config.find?_single, Value.field?, table_there]
  unfold ofConfig
  rw [read]
  refine (ok_bind (a := Setting.own.map fun setting => (setting.name, found setting)) ?_).trans
    ((ok_bind (a := Setting.others.map fun setting => (setting.name, found setting)) ?_).trans rfl)
  · rw [Setting.implementorNames_eq, List.mapM_map]
    refine mapM_eq_ok fun setting own => ?_
    obtain ⟨in_implementor, key_eq⟩ := Setting.place_of_own setting own
    have held := there setting
    rw [inConfig, in_implementor, key_eq, table_there, Option.bind_some] at held
    rw [Function.comp_apply, held]
  · rw [Setting.configured_eq, List.mapM_map]
    refine mapM_eq_ok fun setting other => ?_
    have held := valueAt_path other (there setting)
    exact (ok_bind (a := found setting) (by rw [held]; rfl)).trans rfl

/-- Each setting of a table of the defaults has a value there. -/
theorem exists_default (setting : Setting) :
    ∃ fields, Fields.get? Config.defaults setting.table = some (.table fields) ∧
      (Fields.get? fields setting.key).isSome := by
  cases setting <;> exact ⟨_, rfl, rfl⟩

/-- No file takes a setting from a configuration as long as it leaves the tables tables. -/
theorem exists_inConfig (distinct : (Fields.names layers.file).Nodup) {setting : Setting} {fields : Fields}
    (table : Fields.get? layers.config setting.table = some (.table fields)) :
    ∃ value, layers.inConfig setting = some value := by
  obtain ⟨inner, default_table, there⟩ := exists_default setting
  have kept : (Fields.get? fields setting.key).isSome := by
    rw [config, Config.get?_merge distinct, default_table] at table
    cases file_value : Fields.get? layers.file setting.table with
    | none =>
      rw [file_value] at table
      obtain rfl := Value.table.inj (Option.some.inj table)
      exact there
    | some value =>
      rw [file_value, Option.map_some, Option.some_or] at table
      cases value with
      | table laid =>
        rw [Config.mergeValue] at table
        rw [← Value.table.inj (Option.some.inj table)]
        exact Config.isSome_get?_merge there
      | _ => cases table
  obtain ⟨value, held⟩ := Option.isSome_iff_exists.mp kept
  exact ⟨value, by rw [inConfig, table, Option.bind_some, Value.field?, held]⟩

theorem ofEnvironment_eq (environment : Environment) :
    ofEnvironment environment = variableNames.filterMap fun row =>
      ((environment.lookup row.2).filter (!·.isEmpty)).map fun text => (row.1, .text text) := by
  refine List.filterMap_congr fun row _ => ?_
  dsimp only
  cases environment.lookup row.2 with
  | none => rfl
  | some text =>
    by_cases vacant : text.isEmpty = true
    · simp [Option.filter, vacant]
    · simp [Option.filter, vacant]

theorem mem_variableNames {setting : Setting} {key : String} :
    (setting.name, key) ∈ variableNames ↔ setting.variableName? = some key := by
  cases setting <;> simp [variableNames, Setting.name, Setting.variableName?, eq_comm]

theorem nodup_ofEnvironment (environment : Environment) : (Fields.names (ofEnvironment environment)).Nodup := by
  have sublist (rows : List (String × String)) :
      (Fields.names (rows.filterMap fun row =>
        ((environment.lookup row.2).filter (!·.isEmpty)).map fun text => (row.1, Value.text text))).Sublist
        (rows.map Prod.fst) := by
    induction rows with
    | nil => exact List.Sublist.refl _
    | cons row rest ih =>
      rw [List.filterMap_cons, List.map_cons]
      cases (environment.lookup row.2).filter (!·.isEmpty) with
      | none => exact ih.cons _
      | some text => exact ih.cons_cons _
  have distinct : (variableNames.map Prod.fst).Nodup := by decide
  rw [ofEnvironment_eq]
  exact distinct.sublist (sublist variableNames)

theorem get?_ofEnvironment (setting : Setting) :
    Fields.get? (ofEnvironment layers.environment) setting.name = layers.inEnvironment setting := by
  refine Option.ext fun value => ?_
  rw [Fields.get?_eq_some_iff (nodup_ofEnvironment layers.environment), ofEnvironment_eq, List.mem_filterMap,
    inEnvironment]
  constructor
  · rintro ⟨⟨name, key⟩, member, given⟩
    obtain ⟨text, held, same⟩ := Option.map_eq_some_iff.mp given
    obtain ⟨rfl, rfl⟩ := Prod.mk.inj same
    rw [mem_variableNames.mp member, Option.bind_some, held, Option.map_some]
  · intro given
    obtain ⟨text, held, rfl⟩ := Option.map_eq_some_iff.mp given
    obtain ⟨found, filled⟩ := Option.filter_eq_some_iff.mp held
    obtain ⟨key, variableName, looked⟩ := Option.bind_eq_some_iff.mp found
    refine ⟨(setting.name, key), mem_variableNames.mpr variableName, ?_⟩
    dsimp only
    rw [looked, Option.filter_some, if_pos filled, Option.map_some]

/-- What is read in the layers that are set upon one another is the effective value. -/
theorem get?_layers (distinct : (Fields.names layers.overrides).Nodup) {found : Setting → Value}
    (there : ∀ setting, layers.inConfig setting = some (found setting)) (setting : Setting) :
    (Fields.get? (Fields.putAll (Fields.putAll (Setting.all.map fun setting => (setting.name, found setting))
      (ofEnvironment layers.environment)) (given layers.overrides)) setting.name).getD .null =
      layers.value setting := by
  have given_distinct : (Fields.names (given layers.overrides)).Nodup :=
    distinct.sublist (List.filter_sublist.map Prod.fst)
  have all_distinct : (Fields.names (Setting.all.map fun setting => (setting.name, found setting))).Nodup := by
    rw [Fields.names, List.map_map]
    exact Setting.nodup_names
  have configured : Fields.get? (Setting.all.map fun setting => (setting.name, found setting)) setting.name =
      layers.inConfig setting := by
    rw [there setting, Fields.get?_eq_some_iff all_distinct]
    exact List.mem_map.mpr ⟨setting, Setting.mem_all setting, rfl⟩
  have overridden : Fields.get? (given layers.overrides) setting.name = layers.inOverrides setting :=
    Fields.get?_filter distinct setting.name
  rw [Fields.get?_putAll given_distinct, Fields.get?_putAll (nodup_ofEnvironment layers.environment),
    configured, overridden, get?_ofEnvironment, value]

/-- The effective values are of the kinds that the settings take. -/
theorem AreKinded.admits (kinded : layers.AreKinded) (setting : Setting) : setting.Admits (layers.value setting) := by
  obtain ⟨fields, table⟩ := kinded.tables setting
  obtain ⟨found, there⟩ := exists_inConfig kinded.file_distinct table
  rw [value]
  cases upper : layers.inOverrides setting with
  | some value =>
    rw [Option.some_or, Option.getD_some]
    exact kinded.overrides setting value upper
  | none =>
    rw [Option.none_or]
    cases middle : layers.inEnvironment setting with
    | some value =>
      rw [Option.some_or, Option.getD_some]
      obtain ⟨text, held, rfl⟩ := Option.map_eq_some_iff.mp middle
      obtain ⟨variableName, given, -⟩ := Option.bind_eq_some_iff.mp (Option.filter_eq_some_iff.mp held).1
      exact Setting.admits_text given text
    | none =>
      rw [Option.none_or, there, Option.getD_some]
      exact kinded.config setting found there

end Layers

/-! ## Loading -/

theorem mapM_textOf (texts : List String) : (texts.map Value.text).mapM textOf = .ok texts := by
  have each : ∀ text ∈ texts, (textOf ∘ Value.text) text = .ok (id text) := fun text _ => rfl
  rw [List.mapM_map, mapM_eq_ok each, List.map_id]

/-- Values of the right kinds come to what they should. -/
theorem ofValues_resolves {values : Fields} {value : Setting → Value}
    (read : ∀ setting : Setting, (Fields.get? values setting.name).getD .null = value setting)
    (admitted : ∀ setting : Setting, setting.Admits (value setting)) : Resolves value (ofValues values) := by
  obtain ⟨implSuffix, suffix_value⟩ := admitted .implSuffix
  obtain ⟨indent, indent_value⟩ := admitted .indent
  obtain ⟨sourceExtension, source_value⟩ := admitted .sourceExtension
  obtain ⟨classExtension, class_value⟩ := admitted .classExtension
  obtain ⟨tempPrefix, prefix_value⟩ := admitted .tempPrefix
  obtain ⟨javac, javac_value⟩ := admitted .javac
  obtain ⟨javacArgs, args_value⟩ := admitted .javacArgs
  obtain ⟨javap, javap_value⟩ := admitted .javap
  obtain ⟨journalDir, dir_value⟩ := admitted .journalDir
  -- With what is read filled in, only the switch and the suffix are left to decide.
  have reached : ofValues values = (do
      let journalEnabled ← switchOf (value .journalEnabled)
      if implSuffix.isEmpty then throw .noSuffix
      return ⟨implSuffix, indent, sourceExtension, classExtension, tempPrefix, javac, javacArgs, javap,
        journalEnabled, .ofText journalDir⟩) := by
    have suffix_read := (read .implSuffix).trans suffix_value
    have indent_read := (read .indent).trans indent_value
    have source_read := (read .sourceExtension).trans source_value
    have class_read := (read .classExtension).trans class_value
    have prefix_read := (read .tempPrefix).trans prefix_value
    have javac_read := (read .javac).trans javac_value
    have args_read := (read .javacArgs).trans args_value
    have javap_read := (read .javap).trans javap_value
    have enabled_read := read .journalEnabled
    have dir_read := (read .journalDir).trans dir_value
    dsimp only [Setting.name] at suffix_read indent_read source_read class_read prefix_read javac_read
    dsimp only [Setting.name] at args_read javap_read enabled_read dir_read
    simp only [ofValues, suffix_read, indent_read, source_read, class_read, prefix_read, javac_read,
      args_read, javap_read, enabled_read, dir_read, Value.items?, mapM_textOf]
    rfl
  rw [reached]
  cases switch : switch? (value .journalEnabled) with
  | none =>
    have unswitched := switch?_eq_none_iff.mp switch
    have showable : (value .journalEnabled).isShowable = true := by
      rcases admitted .journalEnabled with ⟨on, boolean⟩ | ⟨text, word⟩
      · rw [boolean]
        rfl
      · rw [word]
        rfl
    have failed : switchOf (value .journalEnabled) = .error (.noSwitch (value .journalEnabled)) := by
      rw [switchOf, switch]
      exact if_pos showable
    rw [failed]
    exact .noSwitch unswitched
  | some on =>
    have switched := switch?_eq_some_iff.mp switch
    have passed : switchOf (value .journalEnabled) = .ok on := by rw [switchOf, switch]
    rw [passed]
    by_cases vacant : implSuffix = ""
    · subst vacant
      exact .noSuffix switched suffix_value
    · have converted : Converts value ⟨implSuffix, indent, sourceExtension, classExtension, tempPrefix, javac,
          javacArgs, javap, on, .ofText journalDir⟩ :=
        ⟨suffix_value, indent_value, source_value, class_value, prefix_value, javac_value, args_value,
          javap_value, switched, journalDir, dir_value, rfl⟩
      have filled : ¬ implSuffix.isEmpty = true := by simpa using vacant
      rw [ok_bind rfl, if_neg filled]
      exact .settings converted vacant

theorem Layers.AreKinded.resolves {layers : Layers} (kinded : layers.AreKinded) :
    Resolves layers.value layers.settings := by
  have exists_found (setting : Setting) : ∃ value, layers.inConfig setting = some value := by
    obtain ⟨fields, table⟩ := kinded.tables setting
    exact layers.exists_inConfig kinded.file_distinct table
  choose found there using exists_found
  rw [settings, load, ok_bind (ofConfig_eq there)]
  exact ofValues_resolves (get?_layers kinded.overrides_distinct there) kinded.admits

/-- Loading has the one outcome that the effective values have. It fails exactly when the switch of the
journal is none or the suffix is vacant, and two stacks of layers with the same effective values have the
same outcome, whatever stands in their lower layers. -/
theorem load_resolves {layers : Layers} (kinded : layers.AreKinded) :
    (∀ result, layers.settings = result ↔ Resolves layers.value result) ∧
    ((∃ fault, layers.settings = .error fault) ↔
      (∀ on, ¬ Switches (layers.value .journalEnabled) on) ∨ layers.value .implSuffix = .text "") ∧
    ∀ others : Layers, others.AreKinded → others.value = layers.value →
      others.settings = layers.settings := by
  refine ⟨fun result => ⟨?_, ?_⟩, kinded.resolves.isError_iff, fun others also same => ?_⟩
  · rintro rfl
    exact kinded.resolves
  · exact kinded.resolves.unique
  · have others_resolved := also.resolves
    rw [same] at others_resolved
    exact others_resolved.unique kinded.resolves

/-- Layers in which values that are no good, empty or null lie under and over good ones. -/
def layered : Layers where
  file := [("journal", .table [("enabled", .text "maybe")]), ("implementor", .table [("impl_suffix", .text "")]),
    ("indent", .integer 4)]
  environment := [("IMPLEMENTOR_JOURNAL_ENABLED", " Yes "), ("IMPLEMENTOR_JAVAC", "")]
  overrides := [("impl_suffix", .text "Stub"), ("indent", .null), ("javac_args", .list [.text "-g"])]

theorem load_resolves_layered : layered.AreKinded ∧
    layered.settings = .ok ⟨"Stub", "   ", ".java", ".class", "temp", "javac", ["-g"], "javap", true,
      .ofText "logs/implementor"⟩ := by
  have kinded : layered.AreKinded := by
    refine ⟨by decide, ?_, ?_, by decide, ?_⟩
    · intro setting
      cases setting <;> exact ⟨_, rfl⟩
    · intro setting value found
      cases setting with
      | javacArgs => exact ⟨[], (Option.some.inj found).symm⟩
      | journalEnabled => exact .inr ⟨_, (Option.some.inj found).symm⟩
      | _ => exact ⟨_, (Option.some.inj found).symm⟩
    · intro setting value found
      cases setting with
      | implSuffix => exact ⟨_, (Option.some.inj found).symm⟩
      | javacArgs => exact ⟨["-g"], (Option.some.inj found).symm⟩
      | _ => cases found
  refine ⟨kinded, ((load_resolves kinded).1 _).mpr (.settings ?_ (by decide))⟩
  exact ⟨rfl, rfl, rfl, rfl, rfl, rfl, rfl, rfl, switch?_eq_some_iff.mp (by decide), _, rfl, rfl⟩

end Settings
end JavaStubs

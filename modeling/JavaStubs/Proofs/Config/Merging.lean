import JavaStubs.Proofs.Config.Layers

/-!
What merged tables hold. At every path, a value of the upper layer that is no table takes the place of what was
there, and nothing is left below it; where the upper layer says nothing, all stays as it was. So a value of the
lower layer is lost only where it, or a table on the way to it, is replaced, and a layer that is laid over once
more changes nothing.
-/
namespace JavaStubs

def Value.IsTable (value : Value) : Prop := ∃ fields, value = .table fields

namespace Fields

variable {fields : Fields} {name : String} {value : Value}

/-- Each name stands once among fields, and once in every table below them. -/
inductive AreDistinct : Fields → Prop
  | intro {fields : Fields} (names : (names fields).Nodup)
      (tables : ∀ name inner, (name, Value.table inner) ∈ fields → AreDistinct inner) : AreDistinct fields

theorem AreDistinct.nodup (distinct : AreDistinct fields) : (names fields).Nodup := by
  obtain ⟨names, -⟩ := distinct
  exact names

theorem AreDistinct.table (distinct : AreDistinct fields) {inner : Fields}
    (found : fields.get? name = some (.table inner)) : AreDistinct inner := by
  obtain ⟨names, tables⟩ := distinct
  exact tables name inner ((get?_eq_some_iff names).mp found)

theorem AreDistinct.nil : AreDistinct [] := .intro .nil nofun

theorem AreDistinct.cons (new : name ∉ names fields)
    (table : ∀ inner, value = .table inner → AreDistinct inner) (distinct : AreDistinct fields) :
    AreDistinct ((name, value) :: fields) := by
  obtain ⟨names, tables⟩ := distinct
  refine .intro (List.nodup_cons.mpr ⟨new, names⟩) fun other inner member => ?_
  rcases List.mem_cons.mp member with same | member
  · exact table inner (Prod.mk.inj same).2.symm
  · exact tables other inner member

/-- To set a field to what it is changes nothing. -/
theorem put_of_get? (found : fields.get? name = some value) : put name value fields = fields := by
  induction fields with
  | nil => cases found
  | cons field rest ih =>
    obtain ⟨key, old⟩ := field
    rw [get?, List.lookup_cons] at found
    by_cases same : key = name
    · subst same
      rw [beq_self_eq_true] at found
      rw [put, if_pos (beq_self_eq_true key), Option.some.inj found]
    · have other : (name == key) = false := by simpa using Ne.symm same
      rw [other] at found
      rw [put, if_neg (by simpa using same), ih found]

end Fields

namespace Config

variable {base fields : Fields} {value : Value} {name : String} {path rest : List String}

/-! ## Values at paths -/

/-- A value cuts a path off: on the way to it lies something that is no table. -/
def CutsOff (value : Value) (path : List String) : Prop :=
  ∃ before held, before <+: path ∧ before ≠ path ∧ find? value before = some held ∧ ¬ held.IsTable

theorem not_cutsOff_nil (value : Value) : ¬ CutsOff value [] := by
  rintro ⟨before, held, start, shorter, -⟩
  exact shorter (List.prefix_nil.mp start)

/-- A path is cut off at its start, or behind its first name. -/
theorem cutsOff_cons : CutsOff value (name :: rest) ↔
    ¬ value.IsTable ∨ ∃ inner, value.field? name = some inner ∧ CutsOff inner rest := by
  constructor
  · rintro ⟨before, held, start, shorter, found, leaf⟩
    cases before with
    | nil =>
      rw [find?_nil] at found
      obtain rfl := Option.some.inj found
      exact .inl leaf
    | cons first more =>
      obtain ⟨rfl, onward⟩ := List.cons_prefix_cons.mp start
      rw [find?_cons] at found
      obtain ⟨inner, there, found⟩ := Option.bind_eq_some_iff.mp found
      exact .inr ⟨inner, there, more, held, onward, fun same => shorter (congrArg _ same), found, leaf⟩
  · rintro (leaf | ⟨inner, there, before, held, start, shorter, found, leaf⟩)
    · exact ⟨[], value, List.nil_prefix, nofun, find?_nil value, leaf⟩
    · refine ⟨name :: before, held, List.cons_prefix_cons.mpr ⟨rfl, start⟩, ?_, ?_, leaf⟩
      · exact fun same => shorter (List.cons.inj same).2
      · rw [find?_cons, there, Option.bind_some, found]

/-- Only a table has anything below it. -/
theorem field?_of_not_table (leaf : ¬ value.IsTable) (name : String) : value.field? name = none := by
  cases value with
  | table fields => exact absurd ⟨fields, rfl⟩ leaf
  | _ => rfl

/-! ## Values laid over others -/

theorem mergeValue_of_not_table (leaf : ¬ value.IsTable) (old : Option Value) : mergeValue old value = value := by
  cases value with
  | table fields => exact absurd ⟨fields, rfl⟩ leaf
  | _ => rfl

theorem mergeValue_none (value : Value) : mergeValue none value = value := by
  cases value <;> rfl

theorem mergeValue_table_of_not_table (leaf : ¬ value.IsTable) (fields : Fields) :
    mergeValue (some value) (.table fields) = .table fields := by
  cases value with
  | table inner => exact absurd ⟨inner, rfl⟩ leaf
  | _ => rfl

/-- A table is laid over the fields of another one, or takes the place of what was there. -/
theorem mergeValue_table_cases (old : Option Value) (fields : Fields) :
    (∃ inner, mergeValue old (.table fields) = .table (merge inner fields)) ∨
      mergeValue old (.table fields) = .table fields := by
  unfold mergeValue
  split
  · next inner => exact .inl ⟨inner, rfl⟩
  · exact .inr rfl

/-- A field of a table that is laid over a value. -/
theorem field?_mergeValue (distinct : Fields.AreDistinct fields) (old : Option Value) (name : String) :
    (mergeValue old (.table fields)).field? name =
      ((Fields.get? fields name).map (mergeValue (old.bind (·.field? name)))).or (old.bind (·.field? name)) := by
  have bare : (Value.table fields).field? name =
      ((Fields.get? fields name).map (mergeValue none)).or none := by
    rw [Option.or_none, funext mergeValue_none, Option.map_id']
    rfl
  cases old with
  | none => exact (congrArg (·.field? name) (mergeValue_none (.table fields))).trans bare
  | some value =>
    by_cases table : value.IsTable
    · obtain ⟨inner, rfl⟩ := table
      exact get?_merge distinct.nodup name
    · rw [mergeValue_table_of_not_table table, Option.bind_some, field?_of_not_table table]
      exact bare

/-! ## What comes of a path -/

/-- What a value is at a path when another one is laid over it. -/
structure IsMergedAt (base : Option Value) (override merged : Value) (path : List String) : Prop where
  /-- What is laid over and is no table takes the place of anything. -/
  replaced : ∀ value, find? override path = some value → ¬ value.IsTable → find? merged path = some value
  /-- Where nothing is laid over, there or on the way, all stays, be it something or nothing. -/
  untouched : find? override path = none → ¬ CutsOff override path →
    find? merged path = base.bind (find? · path)
  /-- Below what is no table there is nothing. -/
  hidden : CutsOff override path → find? merged path = none
  /-- A table that is laid over something makes that a table. -/
  table : ∀ fields, find? override path = some (.table fields) →
    ∃ inner, find? merged path = some (.table inner)

/-- Below a field that is laid over, it is that field that counts. -/
theorem IsMergedAt.cons {base : Option Value} {merged inner held : Value}
    (there : (Value.table fields).field? name = some inner) (holds : merged.field? name = some held)
    (below : IsMergedAt (base.bind (·.field? name)) inner held rest) :
    IsMergedAt base (.table fields) merged (name :: rest) := by
  have said : find? (.table fields) (name :: rest) = find? inner rest := by
    rw [find?_cons, there, Option.bind_some]
  have found : find? merged (name :: rest) = find? held rest := by
    rw [find?_cons, holds, Option.bind_some]
  have cut : CutsOff (.table fields) (name :: rest) ↔ CutsOff inner rest := by
    rw [cutsOff_cons]
    constructor
    · rintro (leaf | ⟨other, also, cut⟩)
      · exact absurd ⟨fields, rfl⟩ leaf
      · obtain rfl := Option.some.inj (there.symm.trans also)
        exact cut
    · exact fun cut => .inr ⟨inner, there, cut⟩
  have before : base.bind (find? · (name :: rest)) = (base.bind (·.field? name)).bind (find? · rest) := by
    rw [Option.bind_assoc]
    exact congrArg base.bind (funext fun value => find?_cons value name rest)
  constructor
  · rw [said, found]
    exact below.replaced
  · rw [said, found, cut, before]
    exact below.untouched
  · rw [found, cut]
    exact below.hidden
  · rw [said, found]
    exact below.table

/-- Whatever a value is laid over, each path tells what comes of it. -/
theorem mergeValue_isMergedAt (distinct : ∀ fields, value = .table fields → Fields.AreDistinct fields)
    (old : Option Value) (path : List String) : IsMergedAt old value (mergeValue old value) path := by
  -- by the names of the path: each leads from one pair of layers to the pair below it
  induction path generalizing old value with
  | nil =>
    constructor
    · intro other found leaf
      obtain rfl := Option.some.inj ((find?_nil value).symm.trans found)
      rw [mergeValue_of_not_table leaf, find?_nil]
    · intro nothing
      cases (find?_nil value).symm.trans nothing
    · exact fun cut => absurd cut (not_cutsOff_nil value)
    · intro fields found
      obtain rfl := Option.some.inj ((find?_nil value).symm.trans found)
      rcases mergeValue_table_cases old fields with ⟨inner, merged⟩ | merged
      · exact ⟨_, by rw [merged, find?_nil]⟩
      · exact ⟨_, by rw [merged, find?_nil]⟩
  | cons name rest ih =>
    by_cases table : value.IsTable
    · obtain ⟨fields, rfl⟩ := table
      have own := distinct fields rfl
      have merged := field?_mergeValue own old name
      cases said : Fields.get? fields name with
      | some inner =>
        rw [said, Option.map_some, Option.some_or] at merged
        refine .cons said merged (ih ?_ _)
        rintro below rfl
        exact own.table said
      | none =>
        rw [said, Option.map_none, Option.none_or] at merged
        have unsaid : (Value.table fields).field? name = none := said
        have nothing : find? (.table fields) (name :: rest) = none := by
          rw [find?_cons, unsaid, Option.bind_none]
        have uncut : ¬ CutsOff (.table fields) (name :: rest) := by
          rw [cutsOff_cons]
          rintro (leaf | ⟨inner, there, -⟩)
          · exact leaf ⟨fields, rfl⟩
          · cases unsaid.symm.trans there
        refine ⟨fun other found => ?_, fun _ _ => ?_, fun cut => absurd cut uncut, fun other found => ?_⟩
        · cases nothing.symm.trans found
        · rw [find?_cons, merged, Option.bind_assoc]
          exact congrArg old.bind (funext fun value => (find?_cons value name rest).symm)
        · cases nothing.symm.trans found
    · have nothing : find? value (name :: rest) = none := by
        rw [find?_cons, field?_of_not_table table, Option.bind_none]
      rw [mergeValue_of_not_table table]
      refine ⟨fun _ found _ => found, fun _ uncut => ?_, fun _ => nothing, fun other found => ?_⟩
      · exact absurd (cutsOff_cons.mpr (.inl table)) uncut
      · cases nothing.symm.trans found

/-- What was at a path is there still, unless something is laid over it, or over a table on the way to it. -/
theorem IsMergedAt.kept {base override merged held : Value} (laid : IsMergedAt (some base) override merged path)
    (found : find? base path = some held) :
    find? merged path = some held ∨ (∃ value, find? override path = some value) ∨ CutsOff override path := by
  by_cases cut : CutsOff override path
  · exact .inr (.inr cut)
  · cases said : find? override path with
    | some value => exact .inr (.inl ⟨value, rfl⟩)
    | none => exact .inl ((laid.untouched said cut).trans found)

/-! ## Fields laid over others again -/

/-- Fields that say what is there already change nothing. -/
theorem merge_eq_self (same : ∀ name value, (name, value) ∈ fields →
    ∃ held, Fields.get? base name = some held ∧ mergeValue (some held) value = held) :
    merge base fields = base := by
  induction fields with
  | nil => rw [merge]
  | cons field rest ih =>
    obtain ⟨name, value⟩ := field
    obtain ⟨held, there, again⟩ := same name value List.mem_cons_self
    rw [merge, there, again, Fields.put_of_get? there]
    exact ih fun name value member => same name value (List.mem_cons_of_mem _ member)

/-- Laid over twice, or over themselves, fields are there as if they were laid over once. -/
theorem merge_again (distinct : Fields.AreDistinct fields) :
    (∀ base, merge (merge base fields) fields = merge base fields) ∧ merge fields fields = fields := by
  -- one needs the other: a table of the upper layer may stand in the lower one as it is, from the first time on
  induction distinct with
  | @intro fields names inner ih =>
    have itself : ∀ name value, (name, value) ∈ fields → mergeValue (some value) value = value := by
      intro name value member
      by_cases table : value.IsTable
      · obtain ⟨below, rfl⟩ := table
        exact congrArg Value.table (ih name below member).2
      · exact mergeValue_of_not_table table _
    have again : ∀ name value, (name, value) ∈ fields → ∀ old,
        mergeValue (some (mergeValue old value)) value = mergeValue old value := by
      intro name value member old
      by_cases table : value.IsTable
      · obtain ⟨below, rfl⟩ := table
        rcases mergeValue_table_cases old below with ⟨inner, merged⟩ | merged
        · rw [merged]
          exact congrArg Value.table ((ih name below member).1 inner)
        · rw [merged]
          exact itself name _ member
      · rw [mergeValue_of_not_table table, mergeValue_of_not_table table]
    constructor
    · intro base
      refine merge_eq_self fun name value member => ⟨_, ?_, again name value member (Fields.get? base name)⟩
      rw [get?_merge names, (Fields.get?_eq_some_iff names).mpr member]
      rfl
    · exact merge_eq_self fun name value member =>
        ⟨value, (Fields.get?_eq_some_iff names).mpr member, itself name value member⟩

/-! ## Tables that are given as pairs -/

def pairsOf (fields : Fields) : Pairs := fields.map fun (name, value) => (.text name, value)

private theorem pairsOf_cons (name : String) (value : Value) (rest : Fields) :
    pairsOf ((name, value) :: rest) = (.text name, value) :: pairsOf rest := rfl

private theorem sameName_text (name other : String) :
    Pairs.sameName (.text name) (.text other) = (name == other) := by
  rw [Pairs.sameName, Pairs.asNumber, Pairs.asNumber, Value.same] <;> nofun

theorem get?_pairsOf (fields : Fields) (name : String) :
    (pairsOf fields).get? (.text name) = Fields.get? fields name := by
  induction fields with
  | nil => rfl
  | cons field rest ih =>
    obtain ⟨key, value⟩ := field
    have first : Pairs.sameName (.text key) (.text name) = (name == key) := (sameName_text key name).trans BEq.comm
    rw [pairsOf_cons, Pairs.get?, List.find?_cons, Fields.get?, List.lookup_cons]
    dsimp only
    rw [first]
    cases name == key with
    | true => rfl
    | false => exact ih

theorem put_pairsOf (fields : Fields) (name : String) (value : Value) :
    Pairs.put (.text name) value (pairsOf fields) = pairsOf (Fields.put name value fields) := by
  induction fields with
  | nil => rfl
  | cons field rest ih =>
    obtain ⟨key, old⟩ := field
    rw [pairsOf_cons, Pairs.put, sameName_text, Fields.put, ih]
    split
    · rfl
    · rfl

/-- To lay fields over the pairs that a table gives is to lay them over that table. -/
theorem mergePairs_pairsOf (base override : Fields) :
    Pairs.ofValue (.table base) = .ok (pairsOf base) ∧
      mergePairs (pairsOf base) override = pairsOf (merge base override) := by
  refine ⟨rfl, ?_⟩
  induction override generalizing base with
  | nil => rw [merge]; rfl
  | cons field rest ih =>
    obtain ⟨name, value⟩ := field
    have first : mergePairs (pairsOf base) ((name, value) :: rest) =
        mergePairs (Pairs.put (.text name) (mergeValue ((pairsOf base).get? (.text name)) value) (pairsOf base))
          rest := rfl
    rw [first, get?_pairsOf, put_pairsOf, ih, merge]

/-! ## What comes of two tables -/

/-- At every path, merged tables hold what the upper one says, if that is no table, and then nothing below it; what
the lower one has, where the upper one says nothing; and a table where the upper one has a table. So what the lower
one has is there still, unless it or something on the way to it is replaced, and the upper one laid over again
changes nothing. -/
theorem merge_overlays {override : Fields} (distinct : Fields.AreDistinct override) (base : Fields) :
    (∀ path, IsMergedAt (some (.table base)) (.table override) (.table (merge base override)) path) ∧
    (∀ path held, find? (.table base) path = some held →
      find? (.table (merge base override)) path = some held ∨
        (∃ value, find? (.table override) path = some value) ∨ CutsOff (.table override) path) ∧
    merge (merge base override) override = merge base override := by
  have laid (path : List String) :
      IsMergedAt (some (.table base)) (.table override) (.table (merge base override)) path := by
    refine mergeValue_isMergedAt ?_ (some (.table base)) path
    rintro fields ⟨⟩
    exact distinct
  exact ⟨laid, fun path held found => (laid path).kept found, (merge_again distinct).1 base⟩

/-- A table with a plain value where the one above has a table, and the other way round. -/
def lower : Fields :=
  [("flag", .boolean true), ("tool", .table [("name", .text "javac"), ("more", .table [("depth", .integer 2)])]),
    ("log", .table [("dir", .text "logs")])]

/-- The table that is laid over it. -/
def upper : Fields :=
  [("log", .boolean false), ("tool", .table [("more", .table [("depth", .integer 3), ("width", .integer 4)])]),
    ("flag", .table [("on", .null)])]

theorem merge_overlays_mixed : Fields.AreDistinct upper ∧
    find? (.table (merge lower upper)) ["tool", "more", "depth"] = some (.integer 3) ∧
    find? (.table (merge lower upper)) ["tool", "name"] = some (.text "javac") ∧
    find? (.table (merge lower upper)) ["log", "dir"] = none ∧
    (∃ inner, find? (.table (merge lower upper)) ["flag"] = some (.table inner)) ∧
    merge (merge lower upper) upper = merge lower upper := by
  have flag : Fields.AreDistinct [("on", .null)] := .cons (by decide) nofun .nil
  have more : Fields.AreDistinct [("depth", .integer 3), ("width", .integer 4)] :=
    .cons (by decide) nofun (.cons (by decide) nofun .nil)
  have tool : Fields.AreDistinct [("more", .table [("depth", .integer 3), ("width", .integer 4)])] :=
    .cons (by decide) (by rintro _ ⟨⟩; exact more) .nil
  have distinct : Fields.AreDistinct upper :=
    .cons (by decide) nofun (.cons (by decide) (by rintro _ ⟨⟩; exact tool)
      (.cons (by decide) (by rintro _ ⟨⟩; exact flag) .nil))
  obtain ⟨laid, -, again⟩ := merge_overlays distinct lower
  have cut : CutsOff (.table upper) ["log", "dir"] :=
    ⟨["log"], .boolean false, by decide, by decide, rfl, nofun⟩
  have uncut : ¬ CutsOff (.table upper) ["tool", "name"] := by
    rw [cutsOff_cons]
    rintro (leaf | ⟨tables, there, cut⟩)
    · exact leaf ⟨upper, rfl⟩
    · obtain rfl := Option.some.inj there
      rcases cutsOff_cons.mp cut with leaf | ⟨inner, there, -⟩
      · exact leaf ⟨_, rfl⟩
      · cases there
  exact ⟨distinct, (laid _).replaced _ rfl nofun, (laid _).untouched rfl uncut, (laid _).hidden cut,
    (laid _).table _ rfl, again⟩

end Config
end JavaStubs

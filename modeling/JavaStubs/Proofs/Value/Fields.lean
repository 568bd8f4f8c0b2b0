import JavaStubs.Value.Basic

/-!
Fields by their names. Of fields with different names each is found by its own, in whatever order they
stand.
-/
namespace JavaStubs.Fields

variable {fields others done : Fields} {name : String} {value : Value}

/-- Fields whose values are texts. -/
def AreTexts (fields : Fields) : Prop := ∀ field ∈ fields, ∃ text, field.2 = .text text

theorem AreTexts.tail {field : String × Value} {fields : Fields} (texts : AreTexts (field :: fields)) :
    AreTexts fields :=
  fun other member => texts other (List.mem_cons_of_mem field member)

theorem AreTexts.perm (texts : AreTexts fields) (same : fields.Perm others) : AreTexts others :=
  fun field member => texts field (same.mem_iff.mpr member)

/-! ## Setting fields -/

theorem put_of_notMem {name : String} {value : Value} {fields : Fields}
    (new : name ∉ names fields) : put name value fields = fields ++ [(name, value)] := by
  induction fields with
  | nil => rfl
  | cons field fields ih =>
    obtain ⟨other, old⟩ := field
    simp only [names, List.map_cons, List.mem_cons, not_or] at new
    rw [put, if_neg (by simpa using Ne.symm new.1), ih new.2, List.cons_append]

theorem putAll_of_nodup {done fields : Fields} (distinct : (names (done ++ fields)).Nodup) :
    putAll done fields = done ++ fields := by
  induction fields generalizing done with
  | nil => simp [putAll]
  | cons field fields ih =>
    obtain ⟨name, value⟩ := field
    have new : name ∉ names done := by
      intro member
      rw [names, List.map_append, List.nodup_append] at distinct
      exact distinct.2.2 name member name (by simp) rfl
    have rest : putAll done ((name, value) :: fields) =
        putAll (put name value done) fields := rfl
    rw [rest, put_of_notMem new, ih (by rwa [List.append_assoc]), List.append_assoc]
    rfl

theorem mem_put {field : String × Value} (member : field ∈ put name value fields) :
    field = (name, value) ∨ field ∈ fields := by
  induction fields with
  | nil => exact .inl (List.mem_singleton.mp member)
  | cons first rest ih =>
    obtain ⟨key, old⟩ := first
    rw [put] at member
    split at member
    · next same =>
      rcases List.mem_cons.mp member with rfl | member
      · exact .inl (by rw [beq_iff_eq.mp same])
      · exact .inr (List.mem_cons_of_mem _ member)
    · rcases List.mem_cons.mp member with rfl | member
      · exact .inr List.mem_cons_self
      · exact (ih member).imp_right (List.mem_cons_of_mem _)

theorem names_put (name : String) (value : Value) (fields : Fields) :
    names (put name value fields) =
      if name ∈ names fields then names fields else names fields ++ [name] := by
  induction fields with
  | nil => rfl
  | cons first rest ih =>
    obtain ⟨key, old⟩ := first
    rw [put]
    by_cases same : key = name
    · simp [names, same]
    · have other : ¬ (key == name) = true := by simpa using same
      have different : name ≠ key := Ne.symm same
      rw [if_neg other]
      simp only [names, List.map_cons, List.mem_cons, different, false_or] at ih ⊢
      rw [ih]
      by_cases there : name ∈ List.map Prod.fst rest
      · simp [there]
      · simp [there]

theorem nodup_put (distinct : (names fields).Nodup) (name : String) (value : Value) :
    (names (put name value fields)).Nodup := by
  rw [names_put]
  split
  · exact distinct
  · next new =>
    rw [List.nodup_append]
    refine ⟨distinct, by simp, fun other member last here => ?_⟩
    rintro rfl
    exact new (List.mem_singleton.mp here ▸ member)

theorem nodup_putAll (distinct : (names done).Nodup) (fields : Fields) :
    (names (putAll done fields)).Nodup := by
  induction fields generalizing done with
  | nil => exact distinct
  | cons field rest ih => exact ih (nodup_put distinct field.1 field.2)

theorem AreTexts.put {text : String} (texts : AreTexts fields) :
    AreTexts (put name (.text text) fields) := by
  intro field member
  rcases mem_put member with rfl | member
  · exact ⟨text, rfl⟩
  · exact texts field member

theorem AreTexts.putAll (set : AreTexts done) (texts : AreTexts fields) :
    AreTexts (putAll done fields) := by
  induction fields generalizing done with
  | nil => exact set
  | cons field rest ih =>
    obtain ⟨name, value⟩ := field
    obtain ⟨text, rfl⟩ := texts _ List.mem_cons_self
    exact ih set.put texts.tail

/-- There is no field of a name that no field has. -/
theorem get?_of_notMem (new : name ∉ names fields) : fields.get? name = none := by
  refine List.lookup_eq_none_iff.mpr fun field member => ?_
  have different : name ≠ field.1 := by
    rintro rfl
    exact new (List.mem_map_of_mem member)
  simpa using different

/-- Of fields that are set later, the later ones count. -/
theorem get?_putAll (distinct : (names fields).Nodup) (name : String) :
    (putAll done fields).get? name = (fields.get? name).or (done.get? name) := by
  induction fields generalizing done with
  | nil => rfl
  | cons field rest ih =>
    obtain ⟨key, value⟩ := field
    have key_new : key ∉ names rest := (List.nodup_cons.mp distinct).1
    have rest_read : (putAll done ((key, value) :: rest)).get? name =
        (get? rest name).or (get? (put key value done) name) := ih (List.nodup_cons.mp distinct).2
    rw [rest_read, get?_put]
    by_cases same : name = key
    · subst same
      rw [get?_of_notMem key_new, if_pos rfl]
      simp [get?]
    · have other : (name == key) = false := by simpa using same
      simp [same, get?, List.lookup_cons, other]

/-! ## Fields in another order -/

theorem get?_eq_some_iff (distinct : (names fields).Nodup) :
    fields.get? name = some value ↔ (name, value) ∈ fields := by
  induction fields with
  | nil => simp [get?]
  | cons field rest ih =>
    obtain ⟨key, old⟩ := field
    obtain ⟨new, distinct⟩ := List.nodup_cons.mp distinct
    rw [get?, List.lookup_cons]
    by_cases same : name = key
    · subst same
      have absent : (name, value) ∉ rest := fun member => new (List.mem_map.mpr ⟨_, member, rfl⟩)
      simp [absent, eq_comm]
    · have other : (name == key) = false := by simpa using same
      have later := ih distinct
      rw [get?] at later
      simpa [other, same] using later

/-- Of the fields that are kept, each is the one of its name if that is kept. -/
theorem get?_filter {p : String × Value → Bool} (distinct : (names fields).Nodup) (name : String) :
    get? (fields.filter p) name = (fields.get? name).filter fun value => p (name, value) := by
  have kept : (names (fields.filter p)).Nodup := distinct.sublist (List.filter_sublist.map Prod.fst)
  refine Option.ext fun value => ?_
  rw [get?_eq_some_iff kept, List.mem_filter, Option.filter_eq_some_iff, get?_eq_some_iff distinct]

theorem get?_perm (distinct : (names fields).Nodup) (same : fields.Perm others) (name : String) :
    others.get? name = fields.get? name := by
  have also : (names others).Nodup := (same.map Prod.fst).nodup_iff.mp distinct
  refine Option.ext fun value => ?_
  rw [get?_eq_some_iff also, get?_eq_some_iff distinct, same.mem_iff]

end JavaStubs.Fields

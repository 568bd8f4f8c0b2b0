import Mathlib.Data.List.Basic
import JavaStubs.Files.Path

/-!
Names in paths. A path whose names are all names that a directory can hold is read back from its
text, and a path made absolute has no other names.
-/
namespace JavaStubs.Path

open Text (fields fieldsOf joined)

/-- A name that a directory may hold something by. -/
structure IsName (name : String) : Prop where
  nonempty : name ≠ ""
  not_dot : name ≠ "."
  not_dots : name ≠ ".."
  undivided : '/' ∉ name.toList

instance (name : String) : Decidable (IsName name) :=
  decidable_of_iff (name ≠ "" ∧ name ≠ "." ∧ name ≠ ".." ∧ '/' ∉ name.toList)
    ⟨fun ⟨nonempty, not_dot, not_dots, undivided⟩ => ⟨nonempty, not_dot, not_dots, undivided⟩,
      fun named => ⟨named.nonempty, named.not_dot, named.not_dots, named.undivided⟩⟩

theorem IsName.toList_ne_nil {name : String} (named : IsName name) : name.toList ≠ [] :=
  fun empty => named.nonempty (String.toList_inj.mp (by simpa using empty))

private theorem cases_of_prefix {name : String} (start : name.toList <+: ['.', '.']) :
    name = "" ∨ name = "." ∨ name = ".." := by
  rcases List.prefix_cons_iff.mp start with none | ⟨rest, whole, start⟩
  · exact .inl (String.toList_inj.mp (by simpa using none))
  · rcases List.prefix_cons_iff.mp start with rfl | ⟨others, rfl, last⟩
    · exact .inr (.inl (String.toList_inj.mp (by simpa using whole)))
    · obtain rfl := List.prefix_nil.mp last
      exact .inr (.inr (String.toList_inj.mp (by simpa using whole)))

/-- A name stays one with more behind it. -/
theorem IsName.append {name more : String} (named : IsName name) (undivided : '/' ∉ more.toList) :
    IsName (name ++ more) := by
  have other {text : String} (dots : text.toList <+: ['.', '.']) : name ++ more ≠ text := by
    rintro rfl
    rw [String.toList_append] at dots
    rcases cases_of_prefix ((List.prefix_append _ _).trans dots) with rfl | rfl | rfl
    · exact named.nonempty rfl
    · exact named.not_dot rfl
    · exact named.not_dots rfl
  refine ⟨other (by simp), other (by simp), other (by simp), ?_⟩
  rw [String.toList_append, List.mem_append, not_or]
  exact ⟨named.undivided, undivided⟩

/-! ## Fields -/

theorem fields_eq_singleton {sep : Char} {text : List Char} (undivided : sep ∉ text) :
    fields (· == sep) text = [text] := by
  refine Text.fields_of_undivided fun c member => beq_false_of_ne ?_
  rintro rfl
  exact undivided member

theorem fields_append {sep : Char} {text rest : List Char} (undivided : sep ∉ text) :
    fields (· == sep) (text ++ sep :: rest) = text :: fields (· == sep) rest := by
  rw [Text.fields_append_cons (by simp), fields_eq_singleton undivided, List.singleton_append]

theorem undivided_of_mem_fields {sep : Char} {text field : List Char}
    (member : field ∈ fields (· == sep) text) : sep ∉ field := by
  induction text generalizing field with
  | nil =>
    obtain rfl := List.mem_singleton.mp member
    exact List.not_mem_nil
  | cons c rest ih =>
    unfold fields at member
    split at member
    · rcases List.mem_cons.mp member with rfl | member
      · exact List.not_mem_nil
      · exact ih member
    · next other =>
      split at member
      · next none => exact absurd none (Text.fields_ne_nil _ rest)
      · next first more all =>
        rw [all] at ih
        rcases List.mem_cons.mp member with rfl | member
        · have same : c ≠ sep := by simpa using other
          rw [List.mem_cons]
          rintro (rfl | inside)
          · exact same rfl
          · exact ih List.mem_cons_self inside
        · exact ih (List.mem_cons_of_mem first member)

theorem fieldsOf_of_undivided {sep : Char} {text : String} (undivided : sep ∉ text.toList) :
    fieldsOf sep text = [text] := by
  rw [fieldsOf, fields_eq_singleton undivided, List.map_singleton, String.ofList_toList]

/-- What is put together from parts without separators falls into these parts. -/
theorem fields_intercalate {sep : Char} {parts : List (List Char)} (some_parts : parts ≠ [])
    (undivided : ∀ part ∈ parts, sep ∉ part) : fields (· == sep) ([sep].intercalate parts) = parts := by
  rw [Text.fields_intercalate (by simp) some_parts,
    List.flatMap_congr fun part member => fields_eq_singleton (undivided part member), List.flatMap_singleton']

theorem toList_joined {text : String} {sep : Char} (single : text.toList = [sep]) (names : List String) :
    (joined text names).toList = [sep].intercalate (names.map String.toList) := by
  rw [Text.toList_joined, single]

theorem fieldsOf_joined {text : String} {sep : Char} (single : text.toList = [sep]) {names : List String}
    (some_names : names ≠ []) (undivided : ∀ name ∈ names, sep ∉ name.toList) :
    fieldsOf sep (joined text names) = names := by
  have some_parts : names.map String.toList ≠ [] := by simpa using some_names
  have undivided_parts : ∀ part ∈ names.map String.toList, sep ∉ part := by
    intro part member
    obtain ⟨name, inside, rfl⟩ := List.mem_map.mp member
    exact undivided name inside
  have back : String.ofList ∘ String.toList = id := funext fun text => String.ofList_toList
  rw [fieldsOf, toList_joined single, fields_intercalate some_parts undivided_parts, List.map_map, back, List.map_id]

/-! ## Paths and their texts -/

theorem isName_of_mem_namesOf {text name : String} (member : name ∈ namesOf text)
    (not_dots : name ≠ "..") : IsName name := by
  obtain ⟨inside, named⟩ := List.mem_filter.mp member
  obtain ⟨field, field_inside, rfl⟩ := List.mem_map.mp inside
  simp only [bne_iff_ne, Bool.and_eq_true] at named
  exact ⟨named.1, named.2, not_dots, by simpa using undivided_of_mem_fields field_inside⟩

private theorem filter_names {names : List String} (named : ∀ name ∈ names, IsName name) :
    names.filter (fun name => name != "" && name != ".") = names := by
  rw [List.filter_eq_self]
  intro name member
  have is_name := named name member
  simp [is_name.nonempty, is_name.not_dot]

/-- A name by itself is a path from the working directory. -/
theorem ofText_name {name : String} (named : IsName name) : ofText name = ⟨.here, [name]⟩ := by
  have anchor : anchorOf name = .here := by
    unfold anchorOf
    split
    · next first => exact absurd (by simp [first]) named.undivided
    · next first => exact absurd (by simp [first]) named.undivided
    · next first => exact absurd (by simp [first]) named.undivided
    · rfl
  have names : namesOf name = [name] := by
    rw [namesOf, fieldsOf_of_undivided named.undivided]
    exact filter_names fun other member => List.mem_singleton.mp member ▸ named
  rw [ofText, anchor, names]

theorem child_name {path : Path} {name : String} (named : IsName name) :
    path.child name = ⟨path.anchor, path.names ++ [name]⟩ := by
  rw [child, ofText_name named]
  rfl

theorem isAbsolute_child {path : Path} {name : String} (named : IsName name) :
    (path.child name).isAbsolute = path.isAbsolute := by
  rw [child_name named]
  rfl

theorem names_child {path : Path} {name : String} (named : IsName name) :
    (path.child name).names = path.names ++ [name] := by
  rw [child_name named]

theorem parent_child {path : Path} {name : String} (named : IsName name) :
    (path.child name).parent = path := by
  rw [child_name named, parent, List.dropLast_concat]

theorem child_name_eq {path : Path} {name : String} (named : IsName name) :
    (path.child name).name = name := by
  rw [Path.name, names_child named, List.getLast?_concat]
  rfl

/-- An absolute path of nothing but names that directories may hold something by. -/
structure IsPlain (path : Path) : Prop where
  absolute : path.isAbsolute = true
  named : ∀ name ∈ path.names, IsName name

theorem IsPlain.child {path : Path} {name : String} (plain : path.IsPlain) (named : IsName name) :
    (path.child name).IsPlain := by
  refine ⟨(isAbsolute_child named).trans plain.absolute, fun other member => ?_⟩
  rw [names_child named] at member
  rcases List.mem_append.mp member with member | member
  · exact plain.named other member
  · rwa [List.mem_singleton.mp member]

theorem IsPlain.parent {path : Path} (plain : path.IsPlain) : path.parent.IsPlain :=
  ⟨plain.absolute, fun name member => plain.named name (List.dropLast_subset path.names member)⟩

theorem IsPlain.cases {path : Path} (plain : path.IsPlain) :
    path.names = [] ∨
      ∃ (parent : Path) (name : String), path = parent.child name ∧ parent.IsPlain ∧ IsName name := by
  obtain none | ⟨front, last, all⟩ := List.eq_nil_or_concat' path.names
  · exact .inl none
  · have named : IsName last := plain.named last (by simp [all])
    refine .inr ⟨⟨path.anchor, front⟩, last, ?_, ⟨plain.absolute, fun name member => ?_⟩, named⟩
    · rw [child_name named, ← all]
    · exact plain.named name (by simp [all, member])

/-- A path of nothing but names and steps up. -/
def IsClean (path : Path) : Prop := ∀ name ∈ path.names, name ≠ ".." → IsName name

theorem IsPlain.isClean {path : Path} (plain : path.IsPlain) : path.IsClean :=
  fun name member _ => plain.named name member

theorem isClean_ofText (text : String) : (ofText text).IsClean := fun _ => isName_of_mem_namesOf

theorem IsClean.parent {path : Path} (clean : path.IsClean) : path.parent.IsClean :=
  fun name member => clean name (List.dropLast_subset path.names member)

/-- Such a path ends where it starts, in a step up, or in a name. -/
theorem IsClean.cases {path : Path} (clean : path.IsClean) :
    path.names = [] ∨ (∃ front, path.names = front ++ [".."]) ∨
      ∃ (parent : Path) (name : String), path = parent.child name ∧ IsName name := by
  obtain none | ⟨front, last, all⟩ := List.eq_nil_or_concat' path.names
  · exact .inl none
  · by_cases up : last = ".."
    · subst up
      exact .inr (.inl ⟨front, all⟩)
    · have named : IsName last := clean last (by simp [all]) up
      refine .inr (.inr ⟨⟨path.anchor, front⟩, last, ?_, named⟩)
      rw [child_name named, ← all]

private theorem head_joined {names : List String} (named : ∀ name ∈ names, IsName name) :
    (joined "/" names).toList.head? ≠ some '/' := by
  cases names with
  | nil => simp [joined]
  | cons name others =>
    have is_name := named name List.mem_cons_self
    obtain ⟨first, rest, all⟩ := List.exists_cons_of_ne_nil is_name.toList_ne_nil
    have other : first ≠ '/' := by
      rintro rfl
      exact is_name.undivided (by simp [all])
    cases others with
    | nil => simpa [joined, all] using other
    | cons next others => simpa [joined, all] using other

private theorem namesOf_joined {names : List String} (named : ∀ name ∈ names, IsName name) :
    namesOf (joined "/" names) = names := by
  by_cases some_names : names = []
  · subst some_names
    decide
  · rw [namesOf, fieldsOf_joined rfl some_names fun name member => (named name member).undivided]
    exact filter_names named

private theorem namesOf_divided (text : String) : namesOf ("/" ++ text) = namesOf text := by
  have fields : fieldsOf '/' ("/" ++ text) = "" :: fieldsOf '/' text := by
    simp [fieldsOf, Text.fields]
  rw [namesOf, fields, namesOf, List.filter_cons_of_neg (by decide)]

/-- Names with separators between them are a path from the working directory. -/
theorem ofText_joined {names : List String} (named : ∀ name ∈ names, IsName name) :
    ofText (joined "/" names) = ⟨.here, names⟩ := by
  have head := head_joined named
  have anchor : anchorOf (joined "/" names) = .here := by
    unfold anchorOf
    split
    · next first => simp [first] at head
    · next first => simp [first] at head
    · next first => simp [first] at head
    · rfl
  rw [ofText, anchor, namesOf_joined named]

/-- An absolute path is read back from its text. -/
theorem ofText_text {path : Path} (plain : path.IsPlain) : ofText path.text = path := by
  obtain ⟨anchor, names⟩ := path
  obtain ⟨absolute, named⟩ := plain
  have names_read := namesOf_joined named
  have head := head_joined named
  cases anchor with
  | here => cases absolute
  | root =>
    have text : Path.text ⟨.root, names⟩ = "/" ++ joined "/" names := by simp [Path.text, Anchor.text]
    have anchor : anchorOf ("/" ++ joined "/" names) = .root := by
      rw [anchorOf, String.toList_append]
      cases all : (joined "/" names).toList with
      | nil => rfl
      | cons first rest =>
        rw [all] at head
        have other : first ≠ '/' := by simpa using head
        simp [other]
    rw [text, ofText, anchor, namesOf_divided, names_read]
  | doubleRoot =>
    have text : Path.text ⟨.doubleRoot, names⟩ = "/" ++ ("/" ++ joined "/" names) := by
      simp only [Path.text, Anchor.text, reduceCtorEq, false_and, if_false]
      rw [← String.append_assoc]
      rfl
    have anchor : anchorOf ("/" ++ ("/" ++ joined "/" names)) = .doubleRoot := by
      rw [anchorOf, String.toList_append, String.toList_append]
      cases all : (joined "/" names).toList with
      | nil => rfl
      | cons first rest =>
        rw [all] at head
        have other : first ≠ '/' := by simpa using head
        simp [other]
    rw [text, ofText, anchor, namesOf_divided, namesOf_divided, names_read]

theorem joined_append {names others : List String} (some_names : names ≠ []) (some_others : others ≠ [])
    (sep : String) : joined sep (names ++ others) = joined sep names ++ sep ++ joined sep others := by
  induction names with
  | nil => exact absurd rfl some_names
  | cons first names ih =>
    obtain ⟨other, more, rfl⟩ := List.exists_cons_of_ne_nil some_others
    cases names with
    | nil => rfl
    | cons next rest =>
      have all := ih (List.cons_ne_nil next rest)
      simp only [List.cons_append, joined] at all ⊢
      rw [all]
      simp only [String.append_assoc]

theorem joined_concat {names : List String} (some_names : names ≠ []) (sep name : String) :
    joined sep (names ++ [name]) = joined sep names ++ sep ++ name :=
  joined_append some_names (List.cons_ne_nil name []) sep

theorem text_child {path : Path} {name : String} (absolute : path.isAbsolute = true)
    (named : IsName name) :
    (path.child name).text =
      if path.names = [] then path.anchor.text ++ name else path.text ++ "/" ++ name := by
  obtain ⟨anchor, names⟩ := path
  have rooted : anchor ≠ .here := by simpa [isAbsolute] using absolute
  rw [child_name named]
  simp only [Path.text, rooted, false_and, if_false]
  split
  · next none =>
    subst none
    rfl
  · next some_names =>
    rw [joined_concat some_names]
    simp only [String.append_assoc]

/-! ## The NUL character -/

@[simp] theorem hasNul_append (s t : String) : hasNul (s ++ t) = (hasNul s || hasNul t) := by
  simp [hasNul]

theorem hasNul_joined (names : List String) : hasNul (joined "/" names) = names.any hasNul := by
  induction names with
  | nil => rfl
  | cons name others ih =>
    cases others with
    | nil => simp [joined]
    | cons next rest =>
      have separator : hasNul "/" = false := by decide
      rw [joined, hasNul_append, hasNul_append, ih, separator, Bool.or_false, ← List.any_cons]

theorem hasNul_text (path : Path) : hasNul path.text = path.names.any hasNul := by
  obtain ⟨anchor, names⟩ := path
  cases anchor with
  | here =>
    cases names with
    | nil => decide
    | cons name names => simp [Path.text, Anchor.text, hasNul_joined]
  | root =>
    simp [Path.text, Anchor.text, hasNul_joined, show hasNul "/" = false by decide]
  | doubleRoot =>
    simp [Path.text, Anchor.text, hasNul_joined, show hasNul "//" = false by decide]

theorem hasNul_child {path : Path} {name : String} (named : IsName name) :
    hasNul (path.child name).text = (hasNul path.text || hasNul name) := by
  rw [hasNul_text, hasNul_text, names_child named, List.any_append]
  simp

theorem hasNul_iff {text : String} : hasNul text = true ↔ '\x00' ∈ text.toList := by
  simp [hasNul]

/-- What is in a field of a text is in the text. -/
theorem mem_of_mem_fields {sep : Char → Bool} {text field : List Char} {c : Char}
    (member : field ∈ fields sep text) (inside : c ∈ field) : c ∈ text := by
  induction text generalizing field with
  | nil =>
    obtain rfl := List.mem_singleton.mp member
    exact inside
  | cons first rest ih =>
    unfold fields at member
    split at member
    · rcases List.mem_cons.mp member with rfl | member
      · cases inside
      · exact List.mem_cons_of_mem first (ih member inside)
    · split at member
      · next none => exact absurd none (Text.fields_ne_nil _ rest)
      · next field' more all =>
        rw [all] at ih
        rcases List.mem_cons.mp member with rfl | member
        · rcases List.mem_cons.mp inside with rfl | inside
          · exact List.mem_cons_self
          · exact List.mem_cons_of_mem first (ih List.mem_cons_self inside)
        · exact List.mem_cons_of_mem first (ih (List.mem_cons_of_mem field' member) inside)

theorem hasNul_of_mem_fieldsOf {sep : Char} {text field : String} (member : field ∈ fieldsOf sep text)
    (nul : hasNul field = true) : hasNul text = true := by
  obtain ⟨chars, inside, rfl⟩ := List.mem_map.mp member
  rw [hasNul_iff, String.toList_ofList] at nul
  exact hasNul_iff.mpr (mem_of_mem_fields inside nul)

theorem hasNul_of_mem_names {path : Path} {name : String} (member : name ∈ path.names)
    (nul : hasNul name = true) : hasNul path.text = true := by
  rw [hasNul_text]
  exact List.any_eq_true.mpr ⟨name, member, nul⟩

theorem exists_name_of_hasNul {path : Path} (nul : hasNul path.text = true) :
    ∃ name ∈ path.names, hasNul name = true := by
  rw [hasNul_text] at nul
  exact List.any_eq_true.mp nul

theorem hasNul_of_parent {path : Path} (nul : hasNul path.parent.text = true) :
    hasNul path.text = true := by
  obtain ⟨name, member, nul⟩ := exists_name_of_hasNul nul
  exact hasNul_of_mem_names (List.dropLast_subset _ member) nul

theorem hasNul_of_ofText {text : String} (nul : hasNul (ofText text).text = true) :
    hasNul text = true := by
  obtain ⟨name, member, nul⟩ := exists_name_of_hasNul nul
  exact hasNul_of_mem_fieldsOf (List.mem_filter.mp member).1 nul

/-- What a path is continued by may be any text. -/
theorem hasNul_of_child {path : Path} {text : String} (nul : hasNul (path.child text).text = true) :
    hasNul path.text = true ∨ hasNul text = true := by
  obtain ⟨name, member, nul⟩ := exists_name_of_hasNul nul
  unfold child join at member
  split at member
  · exact .inr (hasNul_of_ofText (hasNul_of_mem_names member nul))
  · rcases List.mem_append.mp member with member | member
    · exact .inl (hasNul_of_mem_names member nul)
    · exact .inr (hasNul_of_ofText (hasNul_of_mem_names member nul))

theorem hasNul_of_withSuffix {path : Path} {suffix : String}
    (nul : hasNul (path.withSuffix suffix).text = true) :
    hasNul path.text = true ∨ hasNul suffix = true := by
  obtain ⟨name, member, nul⟩ := exists_name_of_hasNul nul
  rcases List.mem_append.mp member with member | last
  · exact .inl (hasNul_of_mem_names (List.dropLast_subset _ member) nul)
  · obtain rfl := List.mem_singleton.mp last
    rw [hasNul_append, Bool.or_eq_true] at nul
    rcases nul with kept | nul
    · rw [hasNul_iff, String.toList_ofList] at kept
      have inside : hasNul path.name = true := hasNul_iff.mpr (List.mem_of_mem_take kept)
      unfold name at inside
      cases last : path.names.getLast? with
      | none =>
        rw [last] at inside
        cases inside
      | some name =>
        rw [last] at inside
        exact .inl (hasNul_of_mem_names (List.mem_of_getLast? last) inside)
    · exact .inr nul

/-! ## Absolute paths -/

private theorem isName_of_normalNames {done names : List String} (known : ∀ name ∈ done, IsName name)
    (named : ∀ name ∈ names, name ≠ ".." → IsName name) :
    ∀ name ∈ normalNames true done names, IsName name := by
  induction names generalizing done with
  | nil => simpa [normalNames] using known
  | cons name rest ih =>
    have others : ∀ other ∈ rest, other ≠ ".." → IsName other := fun other member =>
      named other (List.mem_cons_of_mem name member)
    unfold normalNames
    split
    · next up =>
      cases done with
      | nil => exact ih (by simp) others
      | cons last before =>
        have last_named := (known last List.mem_cons_self).not_dots
        simp only [beq_iff_eq, last_named, if_false]
        exact ih (fun other member => known other (List.mem_cons_of_mem last member)) others
    · next plain =>
      refine ih ?_ others
      intro other member
      rcases List.mem_cons.mp member with rfl | member
      · exact named other List.mem_cons_self (by simpa using plain)
      · exact known other member

/-- A text that is made a path, and made absolute from a directory, is a plain path. -/
theorem isPlain_absolute {here : Path} (plain : here.IsPlain) (text : String) :
    (absoluteFrom here (ofText text)).IsPlain := by
  have own : ∀ name ∈ (ofText text).names, name ≠ ".." → IsName name := fun name member =>
    isName_of_mem_namesOf member
  unfold absoluteFrom normal join
  split
  · next other =>
    refine ⟨other, ?_⟩
    rw [other]
    exact isName_of_normalNames (by simp) own
  · have absolute : Path.isAbsolute ⟨here.anchor, here.names ++ (ofText text).names⟩ = true :=
      plain.absolute
    refine ⟨absolute, ?_⟩
    rw [absolute]
    refine isName_of_normalNames (by simp) fun name member not_dots => ?_
    rcases List.mem_append.mp member with member | member
    · exact plain.named name member
    · exact own name member not_dots

private theorem normalNames_of_named {done names : List String} (named : ∀ name ∈ names, IsName name) :
    normalNames true done names = done.reverse ++ names := by
  induction names generalizing done with
  | nil => simp [normalNames]
  | cons name rest ih =>
    have plain : ¬ (name == "..") = true := by
      simpa using (named name List.mem_cons_self).not_dots
    have others := fun other member => named other (List.mem_cons_of_mem name member)
    rw [normalNames.eq_def]
    simp [plain, ih others]

/-- A plain path is absolute as it is. -/
theorem absoluteFrom_of_isPlain {path : Path} (plain : path.IsPlain) (here : Path) :
    absoluteFrom here path = path := by
  rw [absoluteFrom, join, if_pos plain.absolute, normal, plain.absolute,
    normalNames_of_named plain.named]
  rfl

private theorem mem_normalNames {absolute : Bool} {done names : List String} {name : String}
    (member : name ∈ normalNames absolute done names) : name ∈ done ∨ name ∈ names ∨ name = ".." := by
  induction names generalizing done with
  | nil => exact .inl (by simpa [normalNames] using member)
  | cons first rest ih =>
    have onward {more : List String} (known : ∀ other ∈ more, other ∈ done ∨ other = first ∨ other = "..")
        (member : name ∈ normalNames absolute more rest) :
        name ∈ done ∨ name ∈ first :: rest ∨ name = ".." := by
      rcases ih member with earlier | later | up
      · rcases known name earlier with earlier | rfl | up
        · exact .inl earlier
        · exact .inr (.inl List.mem_cons_self)
        · exact .inr (.inr up)
      · exact .inr (.inl (List.mem_cons_of_mem first later))
      · exact .inr (.inr up)
    unfold normalNames at member
    split at member
    · cases done with
      | nil =>
        refine onward (fun other inside => .inr (.inr ?_)) member
        split at inside
        · cases inside
        · exact List.mem_singleton.mp inside
      | cons last before =>
        dsimp only at member
        split at member
        · refine onward (fun other inside => ?_) member
          rcases List.mem_cons.mp inside with up | inside
          · exact .inr (.inr up)
          · exact .inl inside
        · exact onward (fun other inside => .inl (List.mem_cons_of_mem last inside)) member
    · refine onward (fun other inside => ?_) member
      rcases List.mem_cons.mp inside with same | inside
      · exact .inr (.inl same)
      · exact .inl inside

theorem isAbsolute_absoluteFrom {here : Path} (absolute : here.isAbsolute = true) (path : Path) :
    (absoluteFrom here path).isAbsolute = true := by
  unfold absoluteFrom normal join
  split
  · next other => exact other
  · exact absolute

/-- Making an absolute path absolute brings nothing new into it. -/
theorem hasNul_of_absoluteFrom {here path : Path} (absolute : path.isAbsolute = true)
    (nul : hasNul (absoluteFrom here path).text = true) : hasNul path.text = true := by
  obtain ⟨name, member, nul⟩ := exists_name_of_hasNul nul
  rw [absoluteFrom, join, if_pos absolute] at member
  rcases mem_normalNames member with none | inside | rfl
  · cases none
  · exact hasNul_of_mem_names inside nul
  · exact absurd nul (by decide)

end JavaStubs.Path

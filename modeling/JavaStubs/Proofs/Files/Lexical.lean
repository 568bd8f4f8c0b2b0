import Mathlib.Data.List.DropRight
import JavaStubs.Proofs.Files.Names

/-!
What can be told of a path from its names alone. What is put behind a name is the suffix of the whole only if
it is a dot with more behind it, among which there is no further dot; else the suffix that is replaced is
another part of the name, or nothing. A path that is read without regard to links and continued by names stays
below where it was, if these never lead further up than they led down before. The text of a path begins with the
text of another one if it lies below that, but also if it lies below a neighbour of that under a longer name.
-/
namespace JavaStubs

/-! ## Suffixes -/

namespace Text

variable {sep : Char} {front tail text : List Char}

/-- What is behind the last separator, as the library has it. -/
theorem afterLast_eq (sep : Char) (text : List Char) : afterLast sep text = text.rtakeWhile (· != sep) := rfl

theorem not_mem_afterLast (sep : Char) (text : List Char) : sep ∉ afterLast sep text := by
  intro member
  rw [afterLast_eq] at member
  have other := List.mem_rtakeWhile_imp member
  simp at other

private theorem goes_on (absent : sep ∉ text) : ∀ c ∈ text.reverse, (c != sep) = true := by
  intro c member
  rw [bne_iff_ne]
  rintro rfl
  exact absent (List.mem_reverse.mp member)

theorem afterLast_of_undivided (undivided : sep ∉ text) : afterLast sep text = text := by
  rw [afterLast, List.takeWhile_eq_self_iff.mpr (goes_on undivided), List.reverse_reverse]

theorem afterLast_append (absent : sep ∉ tail) : afterLast sep (front ++ sep :: tail) = tail := by
  simp only [afterLast, List.reverse_append, List.reverse_cons, List.append_assoc]
  rw [List.takeWhile_append_of_pos (goes_on absent)]
  simp

theorem beforeLast_of_undivided (undivided : sep ∉ text) : beforeLast sep text = [] := by
  rw [beforeLast, List.dropWhile_eq_nil_iff.mpr (goes_on undivided)]
  rfl

theorem beforeLast_append (absent : sep ∉ tail) : beforeLast sep (front ++ sep :: tail) = front := by
  simp only [beforeLast, List.reverse_append, List.reverse_cons, List.append_assoc]
  rw [List.dropWhile_append_of_pos (goes_on absent)]
  simp

/-- A text ends in its last separator with what stands behind that. -/
theorem suffix_afterLast (member : sep ∈ text) : sep :: afterLast sep text <:+ text := by
  have whole : text.rdropWhile (· != sep) ++ afterLast sep text = text :=
    List.rdropWhile_append_rtakeWhile ..
  have some_front : text.rdropWhile (· != sep) ≠ [] := by
    rw [ne_eq, List.rdropWhile_eq_nil_iff]
    exact fun all => by simpa using all sep member
  have last : (text.rdropWhile (· != sep)).getLast some_front = sep := by
    simpa using List.rdropWhile_last_not (· != sep) text some_front
  have split := List.dropLast_append_getLast some_front
  rw [last] at split
  refine ⟨(text.rdropWhile (· != sep)).dropLast, ?_⟩
  rw [List.append_cons, split, whole]

end Text

namespace Path

variable {name stem extension : String} {base : Path}

/-- A dot with more behind it, among which there is no dot. -/
def IsExtension (text : String) : Prop := ∃ tail, text.toList = '.' :: tail ∧ tail ≠ [] ∧ '.' ∉ tail

/-- The suffix of a name is what the name ends in. -/
theorem suffixOf_suffix (name : String) : (suffixOf name).toList <:+ name.toList := by
  unfold suffixOf
  dsimp only
  split
  · next found =>
    simp only [Bool.and_eq_true, List.contains_iff_mem] at found
    rw [String.toList_ofList]
    exact Text.suffix_afterLast found.1.1
  · exact List.nil_suffix

/-- The suffix of a name is an extension, if there is one. -/
theorem isExtension_suffixOf (some_suffix : suffixOf name ≠ "") : IsExtension (suffixOf name) := by
  unfold suffixOf at some_suffix ⊢
  dsimp only at some_suffix ⊢
  split at some_suffix
  · next found =>
    rw [if_pos found]
    simp only [Bool.and_eq_true, Bool.not_eq_true', List.isEmpty_eq_false_iff] at found
    exact ⟨_, String.toList_ofList, found.1.2, Text.not_mem_afterLast '.' name.toList⟩
  · exact absurd rfl some_suffix

theorem suffixOf_append (some_stem : stem ≠ "") (is_extension : IsExtension extension) :
    suffixOf (stem ++ extension) = extension := by
  obtain ⟨tail, chars, some_tail, no_dot⟩ := is_extension
  have stem_length : 0 < stem.toList.length :=
    List.length_pos_of_ne_nil fun none => some_stem (String.toList_inj.mp (by simpa using none))
  have last : Text.afterLast '.' (stem ++ extension).toList = tail := by
    rw [String.toList_append, chars]
    exact Text.afterLast_append no_dot
  unfold suffixOf
  dsimp only
  rw [last, if_pos (by simp [chars, some_tail]; omega)]
  exact String.toList_inj.mp (by rw [String.toList_ofList, chars])

/-- What is put behind a name is the suffix then, if it is an extension, or if it is nothing and the name has
no suffix. -/
theorem suffixOf_append_iff (some_stem : stem ≠ "") : suffixOf (stem ++ extension) = extension ↔
    IsExtension extension ∨ extension = "" ∧ suffixOf stem = "" := by
  constructor
  · intro same
    by_cases none : extension = ""
    · subst none
      exact .inr ⟨rfl, by simpa using same⟩
    · exact .inl (same ▸ isExtension_suffixOf (same.symm ▸ none))
  · rintro (is_extension | ⟨rfl, no_suffix⟩)
    · exact suffixOf_append some_stem is_extension
    · simpa using no_suffix

/-! ### Replaced suffixes -/

/-- What stands in front of the suffix of a name. -/
def stemOf (name : String) : String :=
  String.ofList (name.toList.take (name.length - (suffixOf name).length))

theorem stemOf_append_suffixOf (name : String) : stemOf name ++ suffixOf name = name := by
  refine String.toList_inj.mp ?_
  obtain ⟨front, whole⟩ := suffixOf_suffix name
  have length : name.length - (suffixOf name).length = front.length := by
    rw [← String.length_toList, ← String.length_toList, ← whole, List.length_append, Nat.add_sub_cancel]
  rw [String.toList_append, stemOf, String.toList_ofList, length, ← whole, List.take_left]

/-- The name in front of what is put behind it is the stem exactly if that is the suffix. -/
theorem stemOf_append_iff (some_stem : stem ≠ "") : stemOf (stem ++ extension) = stem ↔
    IsExtension extension ∨ extension = "" ∧ suffixOf stem = "" := by
  rw [← suffixOf_append_iff some_stem]
  have whole := congrArg String.toList (stemOf_append_suffixOf (stem ++ extension))
  rw [String.toList_append, String.toList_append] at whole
  constructor
  · intro same
    rw [same] at whole
    exact String.toList_inj.mp (List.append_cancel_left whole)
  · intro same
    rw [same] at whole
    exact String.toList_inj.mp (List.append_cancel_right whole)

/-- With another suffix, a path in a directory is one in the same directory. -/
theorem withSuffix_child_eq (named : IsName name) :
    (base.child name).withSuffix extension = ⟨base.anchor, base.names ++ [stemOf name ++ extension]⟩ := by
  unfold withSuffix
  rw [child_name_eq named, child_name named, List.dropLast_concat]
  rfl

end Path
end JavaStubs

namespace JavaStubs.Path

variable {absolute : Bool} {done names others : List String} {depth : Nat} {name : String}

/-! ## Names one after another -/

theorem normalNames_cons (plain : name ≠ "..") :
    normalNames absolute done (name :: names) = normalNames absolute (name :: done) names := by
  rw [normalNames.eq_def]
  dsimp only
  rw [if_neg (by simpa using plain)]

theorem normalNames_up {last : String} (plain : last ≠ "..") :
    normalNames absolute (last :: done) (".." :: names) = normalNames absolute done names := by
  rw [normalNames, if_pos (beq_self_eq_true _), if_neg (by simpa using plain)]

/-- Names behind others are read from what has come of those. -/
theorem normalNames_append (absolute : Bool) (done names others : List String) :
    normalNames absolute done (names ++ others) =
      normalNames absolute (normalNames absolute done names).reverse others := by
  induction names generalizing done with
  | nil => rw [List.nil_append, normalNames, List.reverse_reverse]
  | cons name names ih =>
    rw [List.cons_append]
    by_cases plain : name = ".."
    · subst plain
      cases done with
      | nil => exact ih _
      | cons last before =>
        by_cases up : last = ".."
        · subst up
          exact ih (".." :: ".." :: before)
        · rw [normalNames_up up, normalNames_up up, ih]
    · rw [normalNames_cons plain, normalNames_cons plain, ih]

/-! ## Names that stay below a level -/

/-- From some levels down, names never lead further up, and end below. -/
def staysBelow : Nat → List String → Bool
  | depth, [] => 0 < depth
  | depth, name :: rest =>
    if name == ".." then
      match depth with
      | 0 => false
      | above + 1 => staysBelow above rest
    else staysBelow (depth + 1) rest

theorem staysBelow_cons (plain : name ≠ "..") :
    staysBelow depth (name :: names) = staysBelow (depth + 1) names := by
  rw [staysBelow.eq_def]
  dsimp only
  rw [if_neg (by simpa using plain)]

theorem staysBelow_append (plain : ".." ∉ names) (depth : Nat) (others : List String) :
    staysBelow depth (names ++ others) = staysBelow (depth + names.length) others := by
  induction names generalizing depth with
  | nil => rfl
  | cons name names ih =>
    have first : name ≠ ".." := fun same => plain (same ▸ List.mem_cons_self)
    rw [List.cons_append, staysBelow_cons first, ih fun member => plain (List.mem_cons_of_mem name member),
      List.length_cons, Nat.add_assoc, Nat.add_comm 1]

/-- What is below a level stays on top of what was there. -/
theorem normalNames_of_staysBelow (top : List String) (plain : ".." ∉ top)
    (stays : staysBelow top.length names = true) (absolute : Bool) (base : List String) :
    ∃ rest, rest ≠ [] ∧ ".." ∉ rest ∧ normalNames absolute (top ++ base) names = base.reverse ++ rest := by
  induction names generalizing top with
  | nil =>
    have some_top : top ≠ [] := List.ne_nil_of_length_pos (by simpa [staysBelow] using stays)
    refine ⟨top.reverse, by simpa using some_top, by simpa using plain, ?_⟩
    rw [normalNames, List.reverse_append]
  | cons name names ih =>
    by_cases up : name = ".."
    · subst up
      cases top with
      | nil => cases stays
      | cons last top =>
        have last_plain : last ≠ ".." := fun same => plain (same ▸ List.mem_cons_self)
        rw [List.cons_append, normalNames_up last_plain]
        exact ih top (fun member => plain (List.mem_cons_of_mem last member)) stays
    · rw [staysBelow_cons up] at stays
      rw [normalNames_cons up]
      refine ih (name :: top) (fun member => ?_) stays
      rcases List.mem_cons.mp member with same | member
      · exact up same.symm
      · exact plain member

/-- Above the start of a relative path nothing leads back. -/
theorem mem_normalNames_of_above (above : List String) (names : List String) :
    ".." ∈ normalNames false (above ++ [".."]) names := by
  induction names generalizing above with
  | nil => simp [normalNames]
  | cons name names ih =>
    by_cases up : name = ".."
    · subst up
      cases above with
      | nil => exact ih [".."]
      | cons last above =>
        by_cases last_up : last = ".."
        · subst last_up
          exact ih (".." :: ".." :: above)
        · rw [List.cons_append, normalNames_up last_up]
          exact ih above
    · rw [normalNames_cons up]
      exact ih (name :: above)

/-- Names that do not stay below the start of a relative path lead to it or above it. -/
theorem normalNames_of_not_staysBelow (top : List String) (plain : ".." ∉ top)
    (leaves : staysBelow top.length names = false) :
    normalNames false top names = [] ∨ ".." ∈ normalNames false top names := by
  induction names generalizing top with
  | nil =>
    obtain rfl : top = [] := List.length_eq_zero_iff.mp (by simpa [staysBelow] using leaves)
    exact .inl rfl
  | cons name names ih =>
    by_cases up : name = ".."
    · subst up
      cases top with
      | nil => exact .inr (mem_normalNames_of_above [] names)
      | cons last top =>
        have last_plain : last ≠ ".." := fun same => plain (same ▸ List.mem_cons_self)
        rw [normalNames_up last_plain]
        exact ih top (fun member => plain (List.mem_cons_of_mem last member)) leaves
    · rw [staysBelow_cons up] at leaves
      rw [normalNames_cons up]
      refine ih (name :: top) (fun member => ?_) leaves
      rcases List.mem_cons.mp member with same | member
      · exact up same.symm
      · exact plain member

/-! ## Paths behind others -/

theorem IsClean.child {path : Path} (clean : path.IsClean) (text : String) : (path.child text).IsClean := by
  rw [Path.child, join]
  split
  · exact isClean_ofText text
  · intro name member not_dots
    rcases List.mem_append.mp member with member | member
    · exact clean name member not_dots
    · exact isClean_ofText text name member not_dots

/-- A plain path is what it is read as. -/
theorem IsPlain.normal_eq {path : Path} (plain : path.IsPlain) : path.normal = path := by
  have same := absoluteFrom_of_isPlain plain path
  rwa [absoluteFrom, join, if_pos plain.absolute] at same

theorem join_of_absolute {path other : Path} (absolute : other.isAbsolute = true) : path.join other = other :=
  if_pos absolute

theorem join_of_relative {path other : Path} (relative : ¬ other.isAbsolute = true) :
    path.join other = ⟨path.anchor, path.names ++ other.names⟩ :=
  if_neg relative

theorem join_assoc (a b c : Path) : (a.join b).join c = a.join (b.join c) := by
  by_cases last : c.isAbsolute = true
  · rw [join_of_absolute last, join_of_absolute last, join_of_absolute last]
  · rw [join_of_relative last, join_of_relative last]
    by_cases middle : b.isAbsolute = true
    · have absolute : Path.isAbsolute ⟨b.anchor, b.names ++ c.names⟩ = true := middle
      rw [join_of_absolute middle, join_of_absolute absolute]
    · have relative : ¬ Path.isAbsolute ⟨b.anchor, b.names ++ c.names⟩ = true := middle
      rw [join_of_relative middle, join_of_relative relative, List.append_assoc]


/-- Read without regard to links, a path lies inside of another one: it has the names of that and some below
them, of which none leads up. -/
def IsInside (root path : Path) : Prop :=
  path.anchor = root.anchor ∧
    ∃ rest, rest ≠ [] ∧ ".." ∉ rest ∧ path.normal.names = root.normal.names ++ rest

/-- A path continued by another one lies inside of it, wherever that is, exactly if the other one is relative
and its names stay below. -/
theorem isInside_join_iff (path : Path) :
    (∀ root : Path, IsInside root (root.join path)) ↔
      path.isAbsolute = false ∧ staysBelow 0 path.names = true := by
  constructor
  · intro inside
    -- below the working directory there is nothing that a way up could be made good by
    obtain ⟨anchored, rest, some_rest, plain, same⟩ := inside ⟨.here, []⟩
    by_cases absolute : path.isAbsolute = true
    · rw [join, if_pos absolute] at anchored
      simp [isAbsolute, anchored] at absolute
    · rw [join_of_relative absolute] at same
      refine ⟨by simpa using absolute, ?_⟩
      by_contra leaves
      have ends : normalNames false [] path.names = rest := same
      rcases normalNames_of_not_staysBelow [] List.not_mem_nil (by simpa using leaves) with none | up
      · exact some_rest (ends.symm.trans none)
      · exact plain (ends ▸ up)
  · rintro ⟨relative, stays⟩ root
    rw [join_of_relative (by simp [relative])]
    refine ⟨rfl, ?_⟩
    obtain ⟨rest, some_rest, plain, same⟩ := normalNames_of_staysBelow [] List.not_mem_nil stays
      root.isAbsolute (normalNames root.isAbsolute [] root.names).reverse
    refine ⟨rest, some_rest, plain, ?_⟩
    change normalNames root.isAbsolute [] (root.names ++ path.names) = _
    rw [normalNames_append]
    rw [List.nil_append, List.reverse_reverse] at same
    exact same

end JavaStubs.Path

namespace JavaStubs

/-! ## Paths whose texts begin alike -/

namespace Text

variable {sep : Char} {last : List Char} {front parts : List (List Char)}

/-- Where parts are put together, those in front are fields, whatever stands behind them. -/
theorem fields_intercalate_append (undivided : ∀ part ∈ front, sep ∉ part) (tail : List Char) :
    fields (· == sep) ([sep].intercalate (front ++ [last]) ++ tail) =
      front ++ fields (· == sep) (last ++ tail) := by
  induction front with
  | nil => rw [List.nil_append, List.intercalate_singleton, List.nil_append]
  | cons part front ih =>
    rw [List.cons_append, List.intercalate_cons_of_ne_nil (by simp), List.append_assoc, List.append_assoc,
      List.singleton_append, Path.fields_append (undivided part List.mem_cons_self),
      ih fun other member => undivided other (List.mem_cons_of_mem part member), List.cons_append]

/-- Parts put together begin with others put together exactly if they have these in front, the last of them maybe
as the beginning of a part. -/
theorem intercalate_prefix_iff (some_last : last ≠ []) (undivided_last : sep ∉ last)
    (undivided_front : ∀ part ∈ front, sep ∉ part) (undivided : ∀ part ∈ parts, sep ∉ part) :
    [sep].intercalate (front ++ [last]) <+: [sep].intercalate parts ↔
      ∃ more rest, parts = front ++ (last ++ more) :: rest := by
  constructor
  · rintro ⟨tail, whole⟩
    have some_parts : parts ≠ [] := by
      rintro rfl
      have cut : [[]] = front ++ [last] := by
        rw [← Path.fields_eq_singleton undivided_last, ← List.append_nil last,
          ← fields_intercalate_append undivided_front, (List.append_eq_nil_iff.mp whole).1]
        rfl
      have ends := congrArg List.getLast? cut
      rw [List.getLast?_concat] at ends
      exact some_last (Option.some.inj ends).symm
    obtain ⟨more, rest, all⟩ := List.exists_cons_of_ne_nil (fields_ne_nil (· == sep) tail)
    have before : fields (· == sep) last = [] ++ [last] := Path.fields_eq_singleton undivided_last
    -- both texts are the same, so their fields are
    have split : fields (· == sep) (last ++ tail) = (last ++ more) :: rest := fields_append before all
    refine ⟨more, rest, ?_⟩
    rw [← split, ← fields_intercalate_append undivided_front, whole,
      Path.fields_intercalate some_parts undivided]
  · rintro ⟨more, rest, rfl⟩
    clear undivided undivided_front
    induction front with
    | nil =>
      rw [List.nil_append, List.nil_append, List.intercalate_singleton]
      cases rest with
      | nil =>
        rw [List.intercalate_singleton]
        exact List.prefix_append last more
      | cons next rest =>
        rw [List.intercalate_cons_cons, List.append_assoc, List.append_assoc]
        exact List.prefix_append last _
    | cons part front ih =>
      rw [List.cons_append, List.cons_append, List.intercalate_cons_of_ne_nil (by simp),
        List.intercalate_cons_of_ne_nil (by simp)]
      exact (List.prefix_append_right_inj _).mpr ih

end Text

namespace Path

variable {root path : Path}

/-- A path from the root, read without regard to links. -/
structure IsResolved (path : Path) : Prop where
  anchored : path.anchor = .root
  named : ∀ name ∈ path.names, IsName name

/-- Of two paths from the root, one is the other or lies below it. -/
def IsUnder (root path : Path) : Prop := root.names <+: path.names

/-- Of two paths from the root, one is or lies below a neighbour of the other, whose name begins with the name of
that and goes on. -/
def IsBeside (root path : Path) : Prop :=
  ∃ more rest, more ≠ "" ∧ path.names = root.parent.names ++ (root.name ++ more) :: rest

theorem parent_name (some_names : root.names ≠ []) : root.parent.names ++ [root.name] = root.names := by
  obtain none | ⟨front, last, all⟩ := List.eq_nil_or_concat' root.names
  · exact absurd none some_names
  · rw [parent, name, all, List.dropLast_concat, List.getLast?_concat, Option.getD_some]

theorem IsBeside.not_isUnder (beside : IsBeside root path) (some_names : root.names ≠ []) :
    ¬ IsUnder root path := by
  obtain ⟨more, rest, goes_on, names⟩ := beside
  rw [IsUnder, names, ← parent_name some_names, List.prefix_append_right_inj, List.cons_prefix_cons]
  rintro ⟨same, -⟩
  have chars := congrArg String.toList same
  rw [String.toList_append, List.self_eq_append_right] at chars
  exact goes_on (String.toList_inj.mp (by simpa using chars))

theorem IsResolved.isPlain (resolved : path.IsResolved) : path.IsPlain :=
  ⟨by rw [isAbsolute, resolved.anchored]; rfl, resolved.named⟩

theorem IsResolved.toList_text (resolved : path.IsResolved) :
    path.text.toList = '/' :: ['/'].intercalate (path.names.map String.toList) := by
  have anchored : ¬ (path.anchor = .here ∧ path.names = []) := fun ⟨here, _⟩ => by
    rw [resolved.anchored] at here
    cases here
  rw [text, if_neg anchored, resolved.anchored, String.toList_append, toList_joined rfl]
  rfl

/-- The text of a path begins with the text of another one exactly if it lies below that, or beside it. -/
theorem text_startsWith_iff (settled : root.IsResolved) (some_names : root.names ≠ [])
    (resolved : path.IsResolved) :
    path.text.startsWith root.text = true ↔ IsUnder root path ∨ IsBeside root path := by
  have whole := parent_name some_names
  have named : ∀ name ∈ root.parent.names ++ [root.name], IsName name := whole.symm ▸ settled.named
  have last := named root.name (by simp)
  have undivided {names : List String} (named : ∀ name ∈ names, IsName name) :
      ∀ part ∈ names.map String.toList, '/' ∉ part := by
    intro part member
    obtain ⟨name, inside, rfl⟩ := List.mem_map.mp member
    exact (named name inside).undivided
  rw [String.startsWith_string_iff, settled.toList_text, resolved.toList_text, List.cons_prefix_cons, ← whole,
    List.map_append, List.map_singleton, Text.intercalate_prefix_iff last.toList_ne_nil last.undivided
      (undivided fun name member => named name (List.mem_append_left _ member)) (undivided resolved.named),
    IsUnder, ← whole]
  constructor
  · rintro ⟨-, more, rest, all⟩
    obtain ⟨front, others, names, front_same, others_same⟩ := List.map_eq_append_iff.mp all
    obtain ⟨next, rest, rfl, next_same, -⟩ := List.map_eq_cons_iff.mp others_same
    obtain rfl := List.map_injective_iff.mpr (fun _ _ => String.toList_inj.mp) front_same
    cases more with
    | nil =>
      obtain rfl := String.toList_inj.mp (next_same.trans (List.append_nil _))
      exact .inl ⟨rest, by rw [names, List.append_assoc, List.singleton_append]⟩
    | cons c more =>
      refine .inr ⟨String.ofList (c :: more), rest, by simp, ?_⟩
      rw [names, ← String.ofList_toList (s := next), next_same, String.ofList_append, String.ofList_toList]
  · rintro (⟨rest, all⟩ | ⟨more, rest, -, all⟩)
    · refine ⟨rfl, [], rest.map String.toList, ?_⟩
      rw [← all]
      simp
    · refine ⟨rfl, more.toList, rest.map String.toList, ?_⟩
      rw [all, List.map_append, List.map_cons, String.toList_append]

end Path
end JavaStubs

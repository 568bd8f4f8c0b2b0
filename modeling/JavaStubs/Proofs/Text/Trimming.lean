import Mathlib.Data.List.DropRight
import JavaStubs.Text.Words

/-!
What is left of a text when blanks, or other characters, are taken off its ends. Trimming is not
stopped by what stands before a text that it keeps, and words do not depend on blanks in front.
-/
namespace JavaStubs.Text

variable {p q : Char → Bool} {c : Char} {front text : List Char}

theorem dropTrailing_eq (p : Char → Bool) (text : List Char) :
    dropTrailing p text = text.rdropWhile p := rfl

/-- What ends in a character that is kept is kept. -/
theorem dropTrailing_of_last (kept : p c = false) : dropTrailing p (front ++ [c]) = front ++ [c] := by
  rw [dropTrailing_eq, List.rdropWhile_concat_neg p front c (by simp [kept])]

/-- What stands before a text matters only when all of that text goes. -/
theorem dropTrailing_append (front text : List Char) :
    dropTrailing p (front ++ text) =
      if text.all p then dropTrailing p front else front ++ dropTrailing p text := by
  induction text using List.reverseRecOn with
  | nil => simp
  | append_singleton text c ih =>
    rw [← List.append_assoc, dropTrailing_eq, dropTrailing_eq, dropTrailing_eq]
    by_cases goes : p c = true
    · rw [List.rdropWhile_concat_pos p _ c goes, List.rdropWhile_concat_pos p _ c goes]
      simpa [goes, dropTrailing_eq] using ih
    · rw [List.rdropWhile_concat_neg p _ c goes, List.rdropWhile_concat_neg p _ c goes]
      simp [goes]

theorem dropTrailing_append_of_last (kept : p c = false) :
    dropTrailing p (front ++ c :: text) = front ++ c :: dropTrailing p text := by
  have split : front ++ c :: text = (front ++ [c]) ++ text := by simp
  rw [split, dropTrailing_append, dropTrailing_of_last kept]
  split
  · next all =>
    have none : dropTrailing p text = [] := by
      rw [dropTrailing_eq, List.rdropWhile_eq_nil_iff]
      exact List.all_eq_true.mp all
    rw [none]
  · simp

theorem dropWhile_eq_nil_of_all (all : ∀ c ∈ text, p c = true) : text.dropWhile p = [] :=
  List.dropWhile_eq_nil_iff.mpr all

/-- The front and the end of a text are taken off in any order. -/
theorem dropTrailing_dropWhile (text : List Char) :
    dropTrailing q (text.dropWhile p) = (dropTrailing q text).dropWhile p := by
  induction text with
  | nil => rfl
  | cons c text ih =>
    have split : dropTrailing q (c :: text) =
        if text.all q then dropTrailing q [c] else c :: dropTrailing q text := by
      simpa using dropTrailing_append (p := q) [c] text
    by_cases first : p c = true
    · rw [List.dropWhile_cons_of_pos first, ih, split]
      by_cases all : text.all q = true
      · rw [if_pos all]
        have none : dropTrailing q text = [] := by
          rw [dropTrailing_eq, List.rdropWhile_eq_nil_iff]
          exact List.all_eq_true.mp all
        rw [none]
        by_cases last : q c = true
        · simp [dropTrailing, last]
        · simp [dropTrailing, last, first]
      · rw [if_neg all, List.dropWhile_cons_of_pos first]
    · rw [List.dropWhile_cons_of_neg first, split]
      split
      · by_cases last : q c = true
        · simp [dropTrailing, last]
        · simp [dropTrailing, last, first]
      · rw [List.dropWhile_cons_of_neg first]

theorem trim_eq (text : List Char) : trim text = (dropTrailing isBlank text).dropWhile isBlank :=
  dropTrailing_dropWhile text

theorem trim_cons_blank (blank : isBlank c = true) : trim (c :: text) = trim text := by
  rw [trim, trim, List.dropWhile_cons_of_pos blank]

theorem trim_cons_solid (solid : isBlank c = false) : trim (c :: text) = c :: dropTrailing isBlank text := by
  rw [trim, List.dropWhile_cons_of_neg (by simp [solid])]
  exact @dropTrailing_append_of_last isBlank c [] text solid

theorem trim_append_blank (blank : ∀ c ∈ front, isBlank c = true) : trim (front ++ text) = trim text := by
  induction front with
  | nil => rfl
  | cons c front ih =>
    rw [List.cons_append, trim_cons_blank (blank c List.mem_cons_self),
      ih fun d member => blank d (List.mem_cons_of_mem c member)]

theorem trim_dropTrailing (text : List Char) : trim (dropTrailing isBlank text) = trim text := by
  rw [trim_eq, trim_eq, dropTrailing_eq, dropTrailing_eq, List.rdropWhile_idempotent]

theorem trim_of_blank (blank : ∀ c ∈ text, isBlank c = true) : trim text = [] := by
  rw [trim, dropWhile_eq_nil_of_all blank]
  rfl

/-- A text is what trimming leaves of it, between blanks. -/
theorem exists_blank_around (text : List Char) :
    ∃ before after, (∀ c ∈ before, isBlank c = true) ∧ (∀ c ∈ after, isBlank c = true) ∧
      text = before ++ trim text ++ after := by
  have kept : trim text ++ (text.dropWhile isBlank).rtakeWhile isBlank = text.dropWhile isBlank :=
    List.rdropWhile_append_rtakeWhile ..
  refine ⟨text.takeWhile isBlank, (text.dropWhile isBlank).rtakeWhile isBlank,
    fun c member => List.mem_takeWhile_imp member, fun c member => List.mem_rtakeWhile_imp member, ?_⟩
  rw [List.append_assoc, kept, List.takeWhile_append_dropWhile]

/-- Trimming takes off the blanks around a text without a blank. -/
theorem trim_between {before word after : List Char} (blank_before : ∀ c ∈ before, isBlank c = true)
    (blank_after : ∀ c ∈ after, isBlank c = true) (solid : ∀ c ∈ word, isBlank c = false) :
    trim (before ++ word ++ after) = word := by
  have all : after.all isBlank = true := List.all_eq_true.mpr blank_after
  have cut : dropTrailing isBlank (word ++ after) = word := by
    rw [dropTrailing_append, if_pos all, dropTrailing_eq, List.rdropWhile_eq_self_iff]
    intro some
    simp [solid _ (List.getLast_mem some)]
  rw [List.append_assoc, trim_append_blank blank_before, trim_eq, cut, List.dropWhile_eq_self_iff]
  intro some
  simp [solid _ (List.getElem_mem some)]

/-! ## Words -/

theorem words_cons_blank (blank : isBlank c = true) : words (c :: text) = words text := by
  rw [words, words, fields, if_pos blank]
  simp

theorem words_eq_nil_iff : words text = [] ↔ ∀ c ∈ text, isBlank c = true := by
  induction text with
  | nil => simp [words, fields]
  | cons c text ih =>
    rw [List.forall_mem_cons]
    by_cases blank : isBlank c = true
    · rw [words_cons_blank blank, ih]
      exact (and_iff_right blank).symm
    · obtain ⟨field, more, all⟩ := List.exists_cons_of_ne_nil (fields_ne_nil isBlank text)
      rw [words, fields, if_neg blank, all]
      exact iff_of_false (by simp) fun both => blank both.1

theorem words_dropWhile (text : List Char) : words (text.dropWhile isBlank) = words text := by
  induction text with
  | nil => rfl
  | cons c text ih =>
    by_cases blank : isBlank c = true
    · rw [List.dropWhile_cons_of_pos blank, words_cons_blank blank, ih]
    · rw [List.dropWhile_cons_of_neg blank]

theorem words_append_blank {word : List Char} (some_word : word ≠ [])
    (solid : ∀ c ∈ word, isBlank c = false) (blank : isBlank c = true) :
    words (word ++ c :: text) = word :: words text := by
  rw [words, fields_append_cons blank, fields_of_undivided solid, words, List.singleton_append,
    List.filter_cons_of_pos]
  simpa using some_word

theorem words_dropTrailing (text : List Char) : words (dropTrailing isBlank text) = words text := by
  induction text using List.reverseRecOn with
  | nil => rfl
  | append_singleton text c ih =>
    by_cases blank : isBlank c = true
    · rw [dropTrailing_eq, List.rdropWhile_concat_pos _ _ _ blank, ← dropTrailing_eq, ih, words, words,
        fields_append_cons blank text []]
      simp [fields]
    · rw [dropTrailing_of_last (by simpa using blank)]

theorem words_trim (text : List Char) : words (trim text) = words text := by
  rw [trim, words_dropTrailing, words_dropWhile]

/-- The words of words with a blank behind each. -/
theorem words_flatMap {all : List (List Char)} (blank : isBlank c = true)
    (solid : ∀ word ∈ all, word ≠ [] ∧ ∀ d ∈ word, isBlank d = false) :
    words (all.flatMap (· ++ [c])) = all := by
  induction all with
  | nil => rfl
  | cons word others ih =>
    obtain ⟨some_word, kept⟩ := solid word List.mem_cons_self
    rw [List.flatMap_cons, List.append_assoc, List.singleton_append,
      words_append_blank some_word kept blank,
      ih fun other member => solid other (List.mem_cons_of_mem word member)]

theorem words_of_solid {word : List Char} (some_word : word ≠ []) (solid : ∀ c ∈ word, isBlank c = false) :
    words word = [word] := by
  have blank : isBlank ' ' = true := by decide
  have trimmed : trim (word ++ [' ']) = word :=
    @trim_between [] word [' '] (by simp) (by simpa using blank) solid
  calc words word = words (trim (word ++ [' '])) := by rw [trimmed]
    _ = words (word ++ [' ']) := words_trim _
    _ = [word] := words_append_blank some_word solid blank

end JavaStubs.Text

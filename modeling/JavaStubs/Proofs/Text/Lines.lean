import JavaStubs.Text.Words

/-!
Lines that were put together to a text are the lines of it: with a line feed between neighbours, where
a last line that is empty is not seen, or with a line feed behind each of them.
-/
namespace JavaStubs.Text

variable {line rest text : List Char}

/-! ## Lines between boundaries -/

/-- A text that ends no line. -/
def IsWhole (line : List Char) : Prop := ∀ c ∈ line, isLineBoundary c = false

instance (line : List Char) : Decidable (IsWhole line) :=
  inferInstanceAs (Decidable (∀ c ∈ line, isLineBoundary c = false))

theorem IsWhole.tail {c : Char} (whole : IsWhole (c :: line)) : IsWhole line :=
  fun d member => whole d (List.mem_cons_of_mem c member)

private theorem lines_cons {c : Char} (kept : isLineBoundary c = false) (text : List Char) :
    lines (c :: text) = match lines text with
      | [] => [[c]]
      | line :: more => (c :: line) :: more := by
  have other : c ≠ '\r' := by
    rintro rfl
    exact absurd kept (by decide)
  rw [lines]
  · exact if_neg (by simp [kept])
  · exact fun _ same => absurd same other

theorem lines_append (whole : IsWhole line) (rest : List Char) :
    lines (line ++ '\n' :: rest) = line :: lines rest := by
  induction line with
  | nil => rfl
  | cons c line ih =>
    rw [List.cons_append, lines_cons (whole c List.mem_cons_self), ih whole.tail]

theorem lines_of_isWhole (whole : IsWhole line) (some_line : line ≠ []) : lines line = [line] := by
  induction line with
  | nil => exact absurd rfl some_line
  | cons c line ih =>
    rw [lines_cons (whole c List.mem_cons_self)]
    cases line with
    | nil => rfl
    | cons d line => rw [ih whole.tail (by simp)]

/-- The lines of a text in which lines are joined are those lines, but for an empty one at the end. -/
theorem lines_joined {all : List (List Char)} (whole : ∀ line ∈ all, IsWhole line) :
    lines (['\n'].intercalate all) = all ∨ all = lines (['\n'].intercalate all) ++ [[]] := by
  induction all with
  | nil => exact .inl rfl
  | cons line others ih =>
    have first := whole line List.mem_cons_self
    cases others with
    | nil =>
      by_cases empty : line = []
      · subst empty
        exact .inr rfl
      · exact .inl (by rw [List.intercalate_singleton, lines_of_isWhole first empty])
    | cons next others =>
      rw [List.intercalate_cons_cons, List.append_assoc, List.singleton_append, lines_append first]
      rcases ih fun other member => whole other (List.mem_cons_of_mem line member) with same | last
      · exact .inl (congrArg (line :: ·) same)
      · refine .inr ?_
        rw [List.cons_append, ← last]

/-! ## Lines with their ends -/

theorem uniformNewlines_eq_self (plain : '\r' ∉ text) : uniformNewlines text = text := by
  induction text with
  | nil => rfl
  | cons c rest ih =>
    have other : c ≠ '\r' := by
      rintro rfl
      exact plain List.mem_cons_self
    rw [uniformNewlines]
    · rw [ih fun member => plain (List.mem_cons_of_mem c member)]
    · rintro _ rfl
      exact absurd rfl other
    · exact other

theorem physicalLines_append (undivided : '\n' ∉ line) (rest : List Char) :
    physicalLines (line ++ '\n' :: rest) = (line ++ ['\n']) :: physicalLines rest := by
  induction line with
  | nil => rfl
  | cons c line ih =>
    have other : ¬ (c == '\n') = true := by
      rw [beq_iff_eq]
      rintro rfl
      exact undivided List.mem_cons_self
    rw [List.cons_append, physicalLines, if_neg other,
      ih fun member => undivided (List.mem_cons_of_mem c member)]
    rfl

/-- The lines of a text in which a line feed stands behind each line. -/
theorem physicalLines_flatMap {all : List (List Char)} (undivided : ∀ line ∈ all, '\n' ∉ line) :
    physicalLines (all.flatMap (· ++ ['\n'])) = all.map (· ++ ['\n']) := by
  induction all with
  | nil => rfl
  | cons line others ih =>
    rw [List.flatMap_cons, List.append_assoc, List.singleton_append,
      physicalLines_append (undivided line List.mem_cons_self),
      ih fun other member => undivided other (List.mem_cons_of_mem line member)]
    rfl

end JavaStubs.Text

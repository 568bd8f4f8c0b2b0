import JavaStubs.Proofs.Json.Tables

/-!
What JSON is written with. A value of any kind is written in visible ASCII characters and blanks, so
it takes up one line.
-/
namespace JavaStubs

/-- A blank or a visible ASCII character. -/
def IsVisible (c : Char) : Prop := 32 ≤ c.toNat ∧ c.toNat ≤ 126

instance (c : Char) : Decidable (IsVisible c) := inferInstanceAs (Decidable (_ ∧ _))

/-! ## Numbers -/

theorem visible_of_isDigit {c : Char} (digit : c.isDigit = true) : IsVisible c := by
  simp only [Char.isDigit, ge_iff_le, Bool.and_eq_true, decide_eq_true_eq] at digit
  have bounds : 48 ≤ c.toNat ∧ c.toNat ≤ 57 := digit
  exact ⟨by omega, by omega⟩

theorem visible_toDigits (n : Nat) : ∀ c ∈ Nat.toDigits 10 n, IsVisible c := fun _ member =>
  visible_of_isDigit (Nat.isDigit_of_mem_toDigits (by decide) (by decide) member)

theorem visible_toString (n : Int) : ∀ c ∈ (toString n).toList, IsVisible c := by
  cases n with
  | ofNat n =>
    have digits : (toString (Int.ofNat n)).toList = Nat.toDigits 10 n := Nat.toList_repr
    rw [digits]
    exact visible_toDigits n
  | negSucc n =>
    have digits : (toString (Int.negSucc n)).toList = '-' :: Nat.toDigits 10 (n + 1) := by
      change ("-" ++ Nat.repr (n + 1)).toList = _
      rw [String.toList_append, Nat.toList_repr]
      rfl
    rw [digits, List.forall_mem_cons]
    exact ⟨by decide, visible_toDigits (n + 1)⟩

namespace Binary64

theorem visible_exponentText {digits : List Char} (visible : ∀ c ∈ digits, IsVisible c)
    (exponent : Int) : ∀ c ∈ exponentText digits exponent, IsVisible c := by
  have size := visible_toDigits exponent.natAbs
  intro c member
  simp only [exponentText, List.mem_append, List.mem_cons] at member
  rcases member with (first | fraction) | rfl | rfl | last
  · exact visible c (List.mem_of_mem_take first)
  · split at fraction
    · cases fraction
    · rcases List.mem_cons.mp fraction with rfl | fraction
      · decide
      · exact visible c (List.mem_of_mem_drop fraction)
  · decide
  · split <;> decide
  · split at last
    · rcases List.mem_cons.mp last with rfl | last
      · decide
      · exact size c last
    · exact size c last

theorem visible_positionalText {digits : List Char} (visible : ∀ c ∈ digits, IsVisible c)
    (point : Int) : ∀ c ∈ positionalText digits point, IsVisible c := by
  have zeros (n : Nat) : ∀ c ∈ List.replicate n '0', IsVisible c := fun c member => by
    rw [List.eq_of_mem_replicate member]
    decide
  intro c member
  unfold positionalText at member
  split at member
  · simp only [List.mem_append] at member
    rcases member with (start | padding) | digit
    · revert c
      decide
    · exact zeros _ c padding
    · exact visible c digit
  · simp only [List.mem_append, List.mem_cons] at member
    rcases member with (whole | padding) | rfl | fraction
    · exact visible c (List.mem_of_mem_take whole)
    · exact zeros _ c padding
    · decide
    · split at fraction
      · rw [List.mem_singleton.mp fraction]
        decide
      · exact visible c (List.mem_of_mem_drop fraction)

theorem visible_decimalText (digits : Nat) (power : Int) :
    ∀ c ∈ decimalText digits power, IsVisible c := by
  have kept : ∀ c ∈ ((Nat.toDigits 10 digits).reverse.dropWhile (· == '0')).reverse, IsVisible c := by
    intro c member
    have inside := (List.dropWhile_sublist _).subset (List.mem_reverse.mp member)
    exact visible_toDigits digits c (List.mem_reverse.mp inside)
  unfold decimalText
  dsimp only
  split
  · exact visible_positionalText kept _
  · exact visible_exponentText kept _

theorem visible_text (x : Binary64) : ∀ c ∈ x.text.toList, IsVisible c := by
  unfold text
  split
  · decide
  · split <;> decide
  · next negative m q _ =>
    have signed (magnitude : List Char) (visible : ∀ c ∈ magnitude, IsVisible c) :
        ∀ c ∈ if negative then '-' :: magnitude else magnitude, IsVisible c := by
      split
      · rw [List.forall_mem_cons]
        exact ⟨by decide, visible⟩
      · exact visible
    dsimp only
    rw [String.toList_ofList]
    refine signed _ ?_
    split
    · decide
    · exact visible_decimalText _ _

end Binary64

namespace Json

open UnicodeEscape (units escapeUnit hex4)
open Hexadecimal (digit)

/-! ## Values -/

theorem visible_escapeUnit (unit : Nat) : ∀ c ∈ escapeUnit unit, IsVisible c := by
  have digits : ∀ n : Fin 16, IsVisible (digit n) := by decide
  have each (n : Nat) : IsVisible (digit (n % 16)) := digits ⟨n % 16, Nat.mod_lt n (by decide)⟩
  simp only [escapeUnit, hex4, List.forall_mem_cons]
  exact ⟨by decide, by decide, each _, each _, each _, each _, by simp⟩

theorem visible_escapeChar (c : Char) : ∀ d ∈ escapeChar c, IsVisible d := by
  unfold escapeChar
  split
  · next quoted =>
    simp only [Bool.or_eq_true, beq_iff_eq] at quoted
    rcases quoted with rfl | rfl <;> decide
  split
  · decide
  split
  · decide
  split
  · decide
  split
  · decide
  split
  · decide
  split
  · next visible =>
    simp only [Bool.and_eq_true, decide_eq_true_eq] at visible
    rw [List.forall_mem_singleton]
    exact visible
  · intro d member
    obtain ⟨unit, -, inside⟩ := List.mem_flatMap.mp member
    exact visible_escapeUnit unit d inside

theorem visible_writeText (text : String) : ∀ c ∈ writeText text, IsVisible c := by
  intro c member
  simp only [writeText, List.mem_cons, List.mem_append, List.not_mem_nil, or_false] at member
  rcases member with rfl | inside | rfl
  · decide
  · obtain ⟨d, -, inside⟩ := List.mem_flatMap.mp inside
    exact visible_escapeChar d c inside
  · decide

theorem visible_writeReal (x : Binary64) : ∀ c ∈ writeReal x, IsVisible c := by
  unfold writeReal
  split
  · decide
  · split <;> decide
  · exact x.visible_text

theorem visible_separated {pieces : List (List Char)} (visible : ∀ piece ∈ pieces, ∀ c ∈ piece, IsVisible c) :
    ∀ c ∈ separated pieces, IsVisible c := by
  fun_induction separated pieces with
  | case1 => simp
  | case2 piece => exact visible piece List.mem_cons_self
  | case3 piece next rest ih =>
    intro c member
    simp only [List.mem_append, List.mem_cons] at member
    rcases member with inside | rfl | rfl | behind
    · exact visible piece List.mem_cons_self c inside
    · decide
    · decide
    · exact ih (fun other member => visible other (List.mem_cons_of_mem piece member)) c behind

mutual

theorem visible_write : ∀ value : Value, ∀ c ∈ write value, IsVisible c
  | .null => by
    rw [write]
    decide
  | .boolean true => by
    rw [write]
    decide
  | .boolean false => by
    rw [write]
    decide
  | .integer n => by
    rw [write]
    exact visible_toString n
  | .real x => by
    rw [write]
    exact visible_writeReal x
  | .text s => by
    rw [write]
    exact visible_writeText s
  | .moment m => by
    rw [write]
    exact visible_writeText m.text
  | .list items => by
    have inside := visible_separated (visible_writeItems items)
    intro c member
    simp only [write, List.mem_cons, List.mem_append, List.not_mem_nil, or_false] at member
    rcases member with rfl | member | rfl
    · decide
    · exact inside c member
    · decide
  | .table fields => by
    have inside := visible_separated (visible_writeFields fields)
    intro c member
    simp only [write, List.mem_cons, List.mem_append, List.not_mem_nil, or_false] at member
    rcases member with rfl | member | rfl
    · decide
    · exact inside c member
    · decide

theorem visible_writeItems : ∀ items : List Value, ∀ piece ∈ writeItems items, ∀ c ∈ piece, IsVisible c
  | [] => by simp [writeItems]
  | item :: rest => by
    rw [writeItems, List.forall_mem_cons]
    exact ⟨visible_write item, visible_writeItems rest⟩

theorem visible_writeFields : ∀ fields : Fields, ∀ piece ∈ writeFields fields, ∀ c ∈ piece, IsVisible c
  | [] => by simp [writeFields]
  | (name, value) :: rest => by
    have inside := visible_write value
    rw [writeFields, List.forall_mem_cons]
    refine ⟨fun c member => ?_, visible_writeFields rest⟩
    simp only [List.mem_append, List.mem_cons] at member
    rcases member with named | rfl | rfl | member
    · exact visible_writeText name c named
    · decide
    · decide
    · exact inside c member

end

/-- A value is written in visible characters, whatever it is. -/
theorem visible_writeSorted (value : Value) : ∀ c ∈ (writeSorted value).toList, IsVisible c := by
  rw [writeSorted, String.toList_ofList]
  exact visible_write (sorted value)

end Json
end JavaStubs

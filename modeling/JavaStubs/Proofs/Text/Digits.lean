import Mathlib.Algebra.Group.Nat.Defs
import JavaStubs.Value.Moment

/-!
Numbers in digits. Zeros in front fill a number up to a width, and do not count when it is read.
-/
namespace JavaStubs

theorem toList_repeated_zero (n : Nat) : (Text.repeated "0" n).toList = List.replicate n '0' := by
  induction n with
  | zero => rfl
  | succ n ih =>
    rw [Text.repeated, String.toList_append, ih]
    rfl

theorem toList_inDigits (width n : Nat) :
    ∃ zeros, (inDigits width n).toList = List.replicate zeros '0' ++ Nat.toDigits 10 n := by
  refine ⟨width - (toString n).length, ?_⟩
  rw [inDigits, String.toList_append, toList_repeated_zero, Nat.toString_eq_repr, Nat.toList_repr]

theorem isDigit_inDigits {width n : Nat} {c : Char} (member : c ∈ (inDigits width n).toList) :
    c.isDigit = true := by
  obtain ⟨zeros, digits⟩ := toList_inDigits width n
  rw [digits] at member
  rcases List.mem_append.mp member with padding | digit
  · rw [List.eq_of_mem_replicate padding]
    decide
  · exact Nat.isDigit_of_mem_toDigits (by decide) (by decide) digit

theorem inDigits_ne_nil (width n : Nat) : (inDigits width n).toList ≠ [] := by
  obtain ⟨zeros, digits⟩ := toList_inDigits width n
  rw [digits]
  exact fun none => Nat.toDigits_ne_nil (List.append_eq_nil_iff.mp none).2

theorem ofDigitChars_inDigits (width n : Nat) : Nat.ofDigitChars 10 (inDigits width n).toList 0 = n := by
  obtain ⟨zeros, digits⟩ := toList_inDigits width n
  rw [digits, Nat.ofDigitChars_append, Nat.ofDigitChars_replicate_zero, Nat.mul_zero,
    Nat.ofDigitChars_ten_toDigits]

/-- A number is read back from its digits. -/
theorem inDigits_injective {width m n : Nat} (same : inDigits width m = inDigits width n) : m = n :=
  calc m = Nat.ofDigitChars 10 (inDigits width m).toList 0 := (ofDigitChars_inDigits width m).symm
    _ = Nat.ofDigitChars 10 (inDigits width n).toList 0 := by rw [same]
    _ = n := ofDigitChars_inDigits width n

/-! ## The order of numbers and that of their digits -/

theorem length_inDigits {width n : Nat} (some_width : 0 < width) (small : n < 10 ^ width) :
    (inDigits width n).toList.length = width := by
  have length : (toString n).length = (Nat.toDigits 10 n).length := by
    rw [Nat.toString_eq_repr, ← String.length_toList, Nat.toList_repr]
  have bound := (Nat.length_toDigits_le_iff (by decide) some_width).mpr small
  rw [inDigits, String.toList_append, toList_repeated_zero, List.length_append, List.length_replicate,
    String.length_toList, length]
  omega

theorem toNat_of_isDigit {c : Char} (digit : c.isDigit = true) :
    '0'.toNat ≤ c.toNat ∧ c.toNat ≤ '0'.toNat + 9 := by
  simp only [Char.isDigit, ge_iff_le, Bool.and_eq_true, decide_eq_true_eq] at digit
  exact digit

theorem ofDigitChars_cons_eq (c : Char) (text : List Char) : Nat.ofDigitChars 10 (c :: text) 0 =
    10 ^ text.length * (c.toNat - '0'.toNat) + Nat.ofDigitChars 10 text 0 := by
  rw [Nat.ofDigitChars_cons, Nat.ofDigitChars_eq_ofDigitChars_zero, Nat.mul_zero, Nat.zero_add]

/-- Digits spell a number that is below the power of ten of their count. -/
theorem ofDigitChars_lt {text : List Char} (digits : ∀ c ∈ text, c.isDigit = true) :
    Nat.ofDigitChars 10 text 0 < 10 ^ text.length := by
  induction text with
  | nil => simp
  | cons c text ih =>
    rw [List.forall_mem_cons] at digits
    have bounds := toNat_of_isDigit digits.1
    have small := ih digits.2
    have lead : 10 ^ text.length * (c.toNat - '0'.toNat) ≤ 10 ^ text.length * 9 :=
      Nat.mul_le_mul_left _ (by omega)
    rw [ofDigitChars_cons_eq, List.length_cons, Nat.pow_succ]
    omega

/-- Digits of one length stand in the order of the numbers that they spell, whatever is behind them. -/
theorem append_lt_append_of_digits {text other : List Char} (digits : ∀ c ∈ text, c.isDigit = true)
    (other_digits : ∀ c ∈ other, c.isDigit = true) (length : text.length = other.length)
    (less : Nat.ofDigitChars 10 text 0 < Nat.ofDigitChars 10 other 0) (behind rest : List Char) :
    text ++ behind < other ++ rest := by
  induction text generalizing other with
  | nil =>
    obtain rfl := List.length_eq_zero_iff.mp length.symm
    exact absurd less (Nat.lt_irrefl _)
  | cons c text ih =>
    cases other with
    | nil => cases length
    | cons d other =>
      rw [List.forall_mem_cons] at digits other_digits
      have same_length : text.length = other.length := Nat.succ.inj length
      rw [ofDigitChars_cons_eq, ofDigitChars_cons_eq, same_length] at less
      rw [List.cons_append, List.cons_append, List.cons_lt_cons_iff]
      rcases Nat.lt_trichotomy c.toNat d.toNat with first | same | first
      · exact .inl first
      · obtain rfl : c = d := Char.toNat_inj.mp same
        exact .inr ⟨rfl, ih digits.2 other_digits.2 same_length (by omega)⟩
      · -- the numbers stand in the order of their first digits, if these differ
        have small := ofDigitChars_lt other_digits.2
        have bounds := toNat_of_isDigit other_digits.1
        have lead : 10 ^ other.length * (d.toNat - '0'.toNat + 1) ≤
            10 ^ other.length * (c.toNat - '0'.toNat) := Nat.mul_le_mul_left _ (by omega)
        rw [Nat.mul_succ] at lead
        omega

/-- Numbers of which none has more digits than there is room for stand in their order as texts. -/
theorem inDigits_append_lt {width m n : Nat} (less : m < n) (small : n < 10 ^ width)
    (behind rest : List Char) :
    (inDigits width m).toList ++ behind < (inDigits width n).toList ++ rest := by
  have some_width : 0 < width := by
    rcases Nat.eq_zero_or_pos width with rfl | some_width
    · omega
    · exact some_width
  refine append_lt_append_of_digits (fun _ => isDigit_inDigits) (fun _ => isDigit_inDigits) ?_ ?_
    behind rest
  · rw [length_inDigits some_width small, length_inDigits some_width (by omega)]
  · rwa [ofDigitChars_inDigits, ofDigitChars_inDigits]

end JavaStubs

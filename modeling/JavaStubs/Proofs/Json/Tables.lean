import JavaStubs.Proofs.UnicodeEscape.RoundTrip
import JavaStubs.Value.JsonReader
import JavaStubs.Value.JsonWriter
import JavaStubs.Proofs.Value.Fields

/-!
Texts and tables of texts in JSON. A text is read back from its quoted form, whatever stands behind it and
with the surrogates in it, as long as these make no pairs. Its quoted form is made of visible ASCII characters
and blanks. What is written of a table of texts is read back, field by field.
-/
namespace JavaStubs.Json

open UnicodeEscape (units escapeUnit hex4)
open Hexadecimal (digit value?_digit)

variable {start pos : Nat} {c : Char} {rest : List Char} {done : List CodePoint}

/-! ## One code point -/

theorem unit?_hex4 {unit : Nat} (small : unit < 65536) :
    unit? (digit (unit / 4096 % 16)) (digit (unit / 256 % 16)) (digit (unit / 16 % 16)) (digit (unit % 16)) =
      some unit := by
  have whole : ((unit / 4096 % 16 * 16 + unit / 256 % 16) * 16 + unit / 16 % 16) * 16 + unit % 16 = unit := by
    omega
  simp [unit?, value?_digit (Nat.mod_lt _ (show 16 > 0 by decide)), whole]

/-- A text does not go on with the second half of a pair, nor with a spoilt escape. -/
def IsApart (rest : List Char) : Prop :=
  ∀ half, secondHalf? rest = some half → ∃ unit, half = some unit ∧ ¬ (0xDC00 ≤ unit ∧ unit < 0xE000)

theorem secondHalf?_escapeUnit {unit : Nat} (small : unit < 65536) (some_rest : rest ≠ []) :
    secondHalf? (escapeUnit unit ++ rest) = some (some unit) := by
  obtain ⟨next, behind, rfl⟩ := List.exists_cons_of_ne_nil some_rest
  simp only [escapeUnit, hex4, List.cons_append, List.nil_append]
  rw [secondHalf?, unit?_hex4 small]

theorem IsApart.escapeUnit {unit : Nat} (small : unit < 65536) (other : unit < 0xDC00 ∨ 0xE000 ≤ unit)
    (some_rest : rest ≠ []) : IsApart (escapeUnit unit ++ rest) := by
  intro half behind
  rw [secondHalf?_escapeUnit small some_rest] at behind
  cases behind
  exact ⟨unit, rfl, by omega⟩

/-- Only an escape by a code unit can be the half of a pair. -/
theorem IsApart.of_none (none : secondHalf? rest = none) : IsApart rest := by
  intro half behind
  rw [none] at behind
  cases behind

theorem secondHalf?_of_head (plain : c ≠ '\\') : secondHalf? (c :: rest) = none := by
  unfold secondHalf?
  split
  · next same => exact absurd (List.cons.inj same).1 plain
  · rfl

theorem secondHalf?_of_letter (other : c ≠ 'u') : secondHalf? ('\\' :: c :: rest) = none := by
  unfold secondHalf?
  split
  · next same => exact absurd (List.cons.inj (List.cons.inj same).2).1 other
  · rfl

/-- An escape that begins no pair is read as its code point. -/
theorem scanPoints_unit {unit : Nat} (small : unit < 65536)
    (single : (unit < 0xD800 ∨ 0xDC00 ≤ unit) ∨ IsApart rest) (some_rest : rest ≠ []) :
    scanPoints start (escapeUnit unit ++ rest) pos done =
      scanPoints start rest (pos + (escapeUnit unit).length) (.ofUnit unit :: done) := by
  obtain ⟨next, behind, rfl⟩ := List.exists_cons_of_ne_nil some_rest
  simp only [escapeUnit, hex4, List.cons_append, List.nil_append]
  rw [scanPoints, unit?_hex4 small]
  dsimp only
  by_cases first : (decide (0xD800 ≤ unit) && decide (unit < 0xDC00)) = true
  · rw [if_pos first]
    simp only [Bool.and_eq_true, decide_eq_true_eq] at first
    have apart : IsApart (next :: behind) := single.resolve_left (by omega)
    cases second : secondHalf? (next :: behind) with
    | none => rfl
    | some half =>
      obtain ⟨low, rfl, other⟩ := apart half second
      dsimp only
      rw [if_neg (by simpa using other)]
      rfl
  · rw [if_neg first]
    rfl

/-- The escapes of a pair are read as one character. -/
theorem scanPoints_pair {high low : Nat} (upper : 0xD800 ≤ high ∧ high < 0xDC00)
    (lower : 0xDC00 ≤ low ∧ low < 0xE000) (some_rest : rest ≠ []) :
    scanPoints start (escapeUnit high ++ (escapeUnit low ++ rest)) pos done =
      scanPoints start rest (pos + (escapeUnit high ++ escapeUnit low).length)
        (.char (ofPair high low) :: done) := by
  obtain ⟨next, behind, rfl⟩ := List.exists_cons_of_ne_nil some_rest
  have first : (decide (0xD800 ≤ high) && decide (high < 0xDC00)) = true := by simp [upper]
  have second : (decide (0xDC00 ≤ low) && decide (low < 0xE000)) = true := by simp [lower]
  simp only [escapeUnit, hex4, List.cons_append, List.nil_append]
  rw [scanPoints, unit?_hex4 (by omega)]
  simp only [if_pos first, secondHalf?, unit?_hex4 (show low < 65536 by omega), if_pos second,
    List.length_cons, List.length_nil]

private theorem ofUnit_toNat (basic : c.toNat < 65536) :
    CodePoint.ofUnit c.toNat = .char c ∧ (c.toNat < 0xD800 ∨ 0xDFFF < c.toNat) := by
  have valid : c.toNat < 0xD800 ∨ 0xDFFF < c.toNat := by
    rcases c.valid with low | ⟨high, -⟩
    · exact .inl low
    · exact .inr high
  rw [CodePoint.ofUnit, dif_neg (by omega), Char.ofNat_toNat]
  exact ⟨rfl, valid⟩

private theorem ofUnit_surrogate (place : Fin 0x800) : CodePoint.ofUnit (0xD800 + place) = .surrogate place := by
  rw [CodePoint.ofUnit, dif_pos (by omega)]
  exact congrArg CodePoint.surrogate (Fin.ext (Nat.add_sub_cancel_left _ _))

/-- What a character is written as: a letter behind a backslash, itself, or the escapes of its code units. -/
theorem escapeChar_cases (c : Char) :
    (∃ e, escapeChar c = ['\\', e] ∧ e ≠ 'u' ∧ shortEscape? e = some c) ∨
    (escapeChar c = [c] ∧ c ≠ '"' ∧ c ≠ '\\' ∧ 32 ≤ c.toNat) ∨
    escapeChar c = (units c).flatMap escapeUnit := by
  unfold escapeChar
  split
  · next quoted =>
    simp only [Bool.or_eq_true, beq_iff_eq] at quoted
    rcases quoted with rfl | rfl
    · exact .inl ⟨'"', rfl, by decide, rfl⟩
    · exact .inl ⟨'\\', rfl, by decide, rfl⟩
  next unquoted =>
  simp only [Bool.or_eq_true, beq_iff_eq, not_or] at unquoted
  split
  · next feed => exact .inl ⟨'n', rfl, by decide, by rw [beq_iff_eq.mp feed]; rfl⟩
  split
  · next back => exact .inl ⟨'r', rfl, by decide, by rw [beq_iff_eq.mp back]; rfl⟩
  split
  · next tab => exact .inl ⟨'t', rfl, by decide, by rw [beq_iff_eq.mp tab]; rfl⟩
  split
  · next rub => exact .inl ⟨'b', rfl, by decide, by rw [beq_iff_eq.mp rub]; rfl⟩
  split
  · next page => exact .inl ⟨'f', rfl, by decide, by rw [beq_iff_eq.mp page]; rfl⟩
  split
  · next visible =>
    simp only [Bool.and_eq_true, decide_eq_true_eq] at visible
    exact .inr (.inl ⟨rfl, unquoted.1, unquoted.2, visible.1⟩)
  · exact .inr (.inr rfl)

/-- The escapes of a character begin with no second half of a pair. -/
theorem IsApart.escapeChar (some_rest : rest ≠ []) : IsApart (escapeChar c ++ rest) := by
  obtain ⟨e, written, other, -⟩ | ⟨written, -, plain, -⟩ | written := escapeChar_cases c
  · rw [written]
    exact .of_none (secondHalf?_of_letter other)
  · rw [written]
    exact .of_none (secondHalf?_of_head plain)
  · rw [written]
    unfold units
    split
    · next basic =>
      obtain ⟨-, valid⟩ := ofUnit_toNat basic
      simp only [List.flatMap_cons, List.flatMap_nil, List.append_nil]
      exact .escapeUnit basic (by omega) some_rest
    · next beyond =>
      have limit : c.toNat < 1114112 := by
        rcases c.valid with low | ⟨-, high⟩
        · exact Nat.lt_trans low (by decide)
        · exact high
      simp only [List.flatMap_cons, List.flatMap_nil, List.append_nil, List.append_assoc]
      exact .escapeUnit (by omega) (by omega) (by simp [some_rest])

/-- A character is read back from what is written for it. -/
theorem scanPoints_escapeChar (some_rest : rest ≠ []) :
    scanPoints start (escapeChar c ++ rest) pos done =
      scanPoints start rest (pos + (escapeChar c).length) (.char c :: done) := by
  have limit : c.toNat < 1114112 := by
    rcases c.valid with low | ⟨-, high⟩
    · exact Nat.lt_trans low (by decide)
    · exact high
  obtain ⟨e, written, other, short⟩ | ⟨written, quote, backslash, visible⟩ | written := escapeChar_cases c
  · rw [written]
    exact scanPoints_short other short
  · rw [written]
    exact scanPoints_plain quote backslash visible
  · rw [written]
    unfold units
    split
    · next basic =>
      obtain ⟨same, valid⟩ := ofUnit_toNat basic
      simp only [List.flatMap_cons, List.flatMap_nil, List.append_nil]
      rw [scanPoints_unit basic (.inl (by omega)) some_rest, same]
    · next beyond =>
      have same : ofPair (0xD800 + (c.toNat - 0x10000) / 0x400) (0xDC00 + (c.toNat - 0x10000) % 0x400) = c := by
        have whole : 0x10000 + (0xD800 + (c.toNat - 0x10000) / 0x400 - 0xD800) * 0x400 +
            (0xDC00 + (c.toNat - 0x10000) % 0x400 - 0xDC00) = c.toNat := by omega
        rw [ofPair, whole, Char.ofNat_toNat]
      simp only [List.flatMap_cons, List.flatMap_nil, List.append_nil, List.append_assoc]
      rw [scanPoints_pair (by omega) (by omega) some_rest, same]

/-! ## Whole texts -/

private theorem escaped_ne_nil {text : List CodePoint} : text.flatMap escapePoint ++ '"' :: rest ≠ [] := by simp

/-- Behind a high surrogate a text without pairs does not go on with a low one. -/
theorem IsApart.of_isUnpaired {place : Fin 0x800} {text : List CodePoint} (high : place < 0x400)
    (unpaired : CodePoint.IsUnpaired (.surrogate place :: text)) :
    IsApart (text.flatMap escapePoint ++ '"' :: rest) := by
  cases text with
  | nil => exact .of_none (secondHalf?_of_head (by decide))
  | cons p text =>
    rw [List.flatMap_cons, List.append_assoc]
    cases p with
    | char c => exact .escapeChar escaped_ne_nil
    | surrogate other =>
      have first : ¬ (0x400 : Fin 0x800) ≤ other := fun low => unpaired.1 ⟨high, low⟩
      exact .escapeUnit (by omega) (.inl (by omega)) escaped_ne_nil

/-- A text without pairs of surrogates is read back, whatever stands behind it. -/
theorem scanPoints_escaped {text : List CodePoint} (unpaired : CodePoint.IsUnpaired text) :
    scanPoints start (text.flatMap escapePoint ++ '"' :: rest) pos done =
      .ok (done.reverse ++ text, pos + (text.flatMap escapePoint).length + 1) := by
  induction text generalizing pos done with
  | nil => simp [scanPoints]
  | cons p text ih =>
    have first : scanPoints start (escapePoint p ++ (text.flatMap escapePoint ++ '"' :: rest)) pos done =
        scanPoints start (text.flatMap escapePoint ++ '"' :: rest) (pos + (escapePoint p).length)
          (p :: done) := by
      cases p with
      | char c => exact scanPoints_escapeChar escaped_ne_nil
      | surrogate place =>
        rw [escapePoint, scanPoints_unit (by omega) ?_ escaped_ne_nil, ofUnit_surrogate]
        by_cases high : place < 0x400
        · exact .inr (.of_isUnpaired high unpaired)
        · exact .inl (by omega)
    rw [List.flatMap_cons, List.append_assoc, first, ih unpaired.tail]
    simp [Nat.add_assoc]

theorem quotedPoints?_writePoints {text : List CodePoint} (unpaired : CodePoint.IsUnpaired text) :
    quotedPoints? (writePoints text) = some text := by
  rw [writePoints, quotedPoints?, scanPoints_escaped unpaired]
  rfl

/-- A text in quotes is one lexeme. -/
theorem scanLexeme_text (text : String) :
    scanLexeme pos '"' (text.toList.flatMap escapeChar ++ '"' :: rest) =
      (.text text, (writeText text).length) := by
  rw [scanLexeme, ← flatMap_escapePoint]
  simp only [scanPoints_escaped (CodePoint.isUnpaired_ofString text), List.reverse_nil, List.nil_append,
    CodePoint.string_ofString, ← writePoints_ofString, writePoints, List.length_cons, List.length_append,
    List.length_nil]
  congr 1
  omega

end JavaStubs.Json

namespace JavaStubs.Json

open Fields (AreTexts)

variable {pos : Nat} {front rest : List Char} {done : Fields} {stack : List Frame}

/-! ## Lexemes -/

/-- What is left of a lexeme is passed over. -/
theorem lexemesFrom_skip : lexemesFrom pos front.length (front ++ rest) =
    lexemesFrom (pos + front.length) 0 rest := by
  induction front generalizing pos with
  | nil => rfl
  | cons c front ih =>
    rw [List.cons_append, List.length_cons, lexemesFrom, ih]
    congr 1
    omega

/-- A lexeme of a single character. -/
theorem lexemesFrom_mark {c : Char} {lexeme : Lexeme} (solid : isSpace c = false)
    (scanned : scanLexeme pos c rest = (lexeme, 1)) :
    lexemesFrom pos 0 (c :: rest) = (pos, lexeme) :: lexemesFrom (pos + 1) 0 rest := by
  rw [lexemesFrom, if_neg (by simp [solid]), scanned]

theorem lexemesFrom_text (text : String) :
    lexemesFrom pos 0 (writeText text ++ rest) =
      (pos, .text text) :: lexemesFrom (pos + (writeText text).length) 0 rest := by
  have behind : text.toList.flatMap escapeChar ++ '"' :: rest =
      (text.toList.flatMap escapeChar ++ ['"']) ++ rest := by simp
  have length : (writeText text).length = (text.toList.flatMap escapeChar ++ ['"']).length + 1 := rfl
  have after : pos + (writeText text).length =
      pos + 1 + (text.toList.flatMap escapeChar ++ ['"']).length := by omega
  rw [after, writeText, List.cons_append, List.append_assoc, List.singleton_append, lexemesFrom,
    if_neg (by decide), scanLexeme_text]
  dsimp only
  rw [length, Nat.add_sub_cancel, behind, lexemesFrom_skip]

/-! ## The reader on a table of texts -/

/-- The reader stands where the name of a field may begin, in a table. -/
def AtName (done : Fields) (stack : List Frame) (state : State) : Prop :=
  state = ⟨.name, .table done :: stack⟩ ∨ state = ⟨.nameOrEnd, .table done :: stack⟩

theorem run_field {state : State} (at_name : AtName done stack state) (name text : String)
    (pos : Nat) (rest : List Char) :
    ∃ after, state.run (lexemesFrom pos 0 (writeText name ++ (':' :: ' ' :: writeText text) ++ rest)) =
      State.run ⟨.separator, .table (Fields.put name (.text text) done) :: stack⟩
        (lexemesFrom after 0 rest) := by
  refine ⟨pos + (writeText name).length + 1 + 1 + (writeText text).length, ?_⟩
  have lexemes : lexemesFrom pos 0 (writeText name ++ (':' :: ' ' :: writeText text) ++ rest) =
      (pos, .text name) :: (pos + (writeText name).length, .colon) ::
        (pos + (writeText name).length + 1 + 1, .text text) ::
          lexemesFrom (pos + (writeText name).length + 1 + 1 + (writeText text).length) 0 rest := by
    rw [List.append_assoc, lexemesFrom_text, List.cons_append, List.cons_append,
      lexemesFrom_mark (by decide) rfl, lexemesFrom_blank, lexemesFrom_text]
  rw [lexemes]
  rcases at_name with rfl | rfl <;> rfl

theorem run_fields {state : State} {fields : Fields} (some_fields : fields ≠ []) (texts : AreTexts fields)
    (at_name : AtName done stack state) (pos : Nat) (rest : List Char) :
    ∃ after, state.run (lexemesFrom pos 0 (separated (writeFields fields) ++ rest)) =
      State.run ⟨.separator, .table (Fields.putAll done fields) :: stack⟩ (lexemesFrom after 0 rest) := by
  induction fields generalizing pos done state with
  | nil => exact absurd rfl some_fields
  | cons field fields ih =>
    obtain ⟨name, value⟩ := field
    obtain ⟨text, rfl⟩ := texts _ List.mem_cons_self
    cases fields with
    | nil => exact run_field at_name name text pos rest
    | cons next others =>
      have written : separated (writeFields ((name, .text text) :: next :: others)) ++ rest =
          writeText name ++ (':' :: ' ' :: writeText text) ++
            (',' :: ' ' :: (separated (writeFields (next :: others)) ++ rest)) := by
        simp [writeFields, separated, write]
      obtain ⟨middle, first⟩ := run_field at_name name text pos
        (',' :: ' ' :: (separated (writeFields (next :: others)) ++ rest))
      obtain ⟨after, others_read⟩ := ih (by simp) texts.tail
        (.inl rfl : AtName (Fields.put name (.text text) done) stack _) (middle + 1 + 1)
      refine ⟨after, ?_⟩
      rw [written, first, lexemesFrom_mark (by decide) rfl, lexemesFrom_blank]
      exact others_read

theorem run_table {fields : Fields} (texts : AreTexts fields) (rest : List Char) :
    ∃ after, State.start.run (lexemesFrom 0 0 (write (.table fields) ++ rest)) =
      State.run ⟨.done (.table (Fields.putAll [] fields)), []⟩ (lexemesFrom after 0 rest) := by
  have opening : State.start.run (lexemesFrom 0 0 (write (.table fields) ++ rest)) =
      State.run ⟨.nameOrEnd, [.table []]⟩
        (lexemesFrom 1 0 (separated (writeFields fields) ++ '\x7d' :: rest)) := by
    rw [write, List.cons_append, lexemesFrom_mark (by decide) rfl, List.append_assoc]
    rfl
  rw [opening]
  by_cases none : fields = []
  · subst none
    exact ⟨2, rfl⟩
  · obtain ⟨middle, inside⟩ := run_fields none texts (.inr rfl : AtName [] [] _) 1
      ('\x7d' :: rest)
    refine ⟨middle + 1, ?_⟩
    rw [inside, lexemesFrom_mark (by decide) rfl]
    rfl

/-! ## Reading back -/

/-- A table of texts is read back from the line that is written of it. -/
theorem read_write {fields : Fields} (texts : AreTexts fields) (distinct : (Fields.names fields).Nodup) :
    read (write (.table fields) ++ ['\n']) = .ok (.table fields) := by
  obtain ⟨after, run⟩ := run_table texts ['\n']
  have same : Fields.putAll [] fields = fields := Fields.putAll_of_nodup distinct
  have first : (write (.table fields) ++ ['\n']).head? = some '\x7b' := by
    rw [write]
    rfl
  have last : lexemesFrom after 0 ['\n'] = [] := rfl
  rw [read, first, if_neg (by decide), run, last, same]
  rfl

end JavaStubs.Json

import Mathlib.Algebra.Group.Nat.Even
import JavaStubs.Text.UnicodeEscape

/-!
The reader of unicode escapes, and when it reads an encoded text back as it was. A backslash behind an even
number of other ones, with one or more letters `u` and four hexadecimal digits behind it, is the UTF-16
code unit that the digits spell; if there are no four digits, the text is in error. All other characters
stand for themselves, and what an escape stands for takes no part in further escapes.

Backslashes that a text already has may start an escape with the letters behind them, or keep the escape
behind them from being one. Neither happens where the runs of backslashes in front of a letter `u` or of a
character outside ASCII are even. Where one is odd the reader falls behind the text that it should restore,
and never catches up.
-/
namespace JavaStubs.UnicodeEscape

open Hexadecimal (digit value? value?_digit)

/-! ## The reader -/

/-- The number that four hexadecimal digits at the start of a text spell, and the text behind them. -/
def hexadecimal4? : List Char → Option (Nat × List Char)
  | a :: b :: c :: d :: rest =>
    match value? a, value? b, value? c, value? d with
    | some a, some b, some c, some d => some (4096 * a + 256 * b + 16 * c + d, rest)
    | _, _, _, _ => none
  | _ => none

theorem hexadecimal4?_eq_some {text behind : List Char} {unit : Nat}
    (spelled : hexadecimal4? text = some (unit, behind)) :
    ∃ a b c d, text = a :: b :: c :: d :: behind ∧
      (value? a).isSome ∧ (value? b).isSome ∧ (value? c).isSome ∧ (value? d).isSome := by
  unfold hexadecimal4? at spelled
  split at spelled
  · next a b c d rest =>
    split at spelled
    · next ha hb hc hd =>
      obtain ⟨-, rfl⟩ : _ ∧ rest = behind := by simpa using spelled
      exact ⟨a, b, c, d, rfl, by simp [ha], by simp [hb], by simp [hc], by simp [hd]⟩
    · cases spelled
  · cases spelled

/-- The code units of a text that is read behind a number of backslashes, unless it is in error. -/
def readFrom (slashes : Nat) (text : List Char) : Option (List Nat) :=
  match text with
  | [] => some []
  | c :: rest =>
    if c = '\\' then
      if slashes % 2 = 0 ∧ rest.head? = some 'u' then
        match _spelled : hexadecimal4? (rest.dropWhile (· == 'u')) with
        | some (unit, behind) => (readFrom 0 behind).map (unit :: ·)
        | none => none
      else (readFrom (slashes + 1) rest).map (units c ++ ·)
    else (readFrom 0 rest).map (units c ++ ·)
termination_by text.length
decreasing_by
  · obtain ⟨_, _, _, _, same, -⟩ := hexadecimal4?_eq_some _spelled
    have shorter := (List.dropWhile_sublist (· == 'u') (l := rest)).length_le
    simp only [same, List.length_cons] at shorter ⊢
    omega
  · simp
  · simp

/-- The code units of a text, unless it is in error. -/
def read (text : List Char) : Option (List Nat) := readFrom 0 text

/-! ## Rules of the reader -/

@[simp] theorem readFrom_nil (slashes : Nat) : readFrom slashes [] = some [] := by
  rw [readFrom]

theorem readFrom_plain {slashes : Nat} {c : Char} {rest : List Char} (plain : c ≠ '\\') :
    readFrom slashes (c :: rest) = (readFrom 0 rest).map (units c ++ ·) := by
  rw [readFrom, if_neg plain]

theorem readFrom_backslash {slashes : Nat} {rest : List Char}
    (kept : ¬ (slashes % 2 = 0 ∧ rest.head? = some 'u')) :
    readFrom slashes ('\\' :: rest) = (readFrom (slashes + 1) rest).map (0x5C :: ·) := by
  rw [readFrom, if_pos rfl, if_neg kept]
  rfl

theorem readFrom_spelled {slashes unit : Nat} {rest behind : List Char} (even : slashes % 2 = 0)
    (marked : rest.head? = some 'u')
    (spelled : hexadecimal4? (rest.dropWhile (· == 'u')) = some (unit, behind)) :
    readFrom slashes ('\\' :: rest) = (readFrom 0 behind).map (unit :: ·) := by
  rw [readFrom, if_pos rfl, if_pos ⟨even, marked⟩]
  split
  · next found =>
    obtain ⟨rfl, rfl⟩ := Prod.mk.inj (Option.some.inj (spelled.symm.trans found))
    rfl
  · next missing => exact absurd (spelled.symm.trans missing) (by simp)

/-- An escape is read as the unit that its digits spell, or the text is in error. -/
theorem readFrom_escape {slashes : Nat} {rest : List Char} {read : List Nat}
    (even : slashes % 2 = 0) (marked : rest.head? = some 'u')
    (success : readFrom slashes ('\\' :: rest) = some read) :
    ∃ unit behind others, hexadecimal4? (rest.dropWhile (· == 'u')) = some (unit, behind) ∧
      readFrom 0 behind = some others ∧ read = unit :: others := by
  rw [readFrom, if_pos rfl, if_pos ⟨even, marked⟩] at success
  split at success
  · next unit behind spelled =>
    obtain ⟨others, behind_read, rfl⟩ := Option.map_eq_some_iff.mp success
    exact ⟨unit, behind, others, spelled, behind_read, rfl⟩
  · cases success

/-! ## Units and escapes -/

theorem units_ascii {c : Char} (ascii : c.toNat < 128) : units c = [c.toNat] := by
  rw [units, if_pos (by omega)]

/-- The units of a character outside ASCII fit into four digits, and none is the code of one in it. -/
theorem units_bounds {c : Char} (wide : 128 ≤ c.toNat) : ∀ unit ∈ units c, 128 ≤ unit ∧ unit < 65536 := by
  have limit : c.toNat < 1114112 := by
    rcases c.valid with low | ⟨-, high⟩
    · exact Nat.lt_trans low (by decide)
    · exact high
  intro unit member
  unfold units at member
  split at member
  · next basic =>
    have same := List.mem_singleton.mp member
    omega
  · next supplementary =>
    rcases List.mem_cons.mp member with rfl | member
    · omega
    · have same := List.mem_singleton.mp member
      omega

theorem units_ne_nil (c : Char) : units c ≠ [] := by
  unfold units
  split <;> simp

private theorem encodeChar_ascii {c : Char} (ascii : c.toNat < 128) : encodeChar c = [c] := by
  rw [encodeChar, if_pos ascii]

private theorem encodeChar_wide {c : Char} (wide : 128 ≤ c.toNat) :
    encodeChar c = (units c).flatMap escapeUnit := by
  rw [encodeChar, if_neg (by omega)]

/-- What is no backslash in an encoded text was there before. -/
private theorem encode_eq_cons {text tail : List Char} {d : Char} (plain : d ≠ '\\')
    (written : encode text = d :: tail) : ∃ rest, text = d :: rest ∧ tail = encode rest := by
  cases text with
  | nil => cases written
  | cons c rest =>
    rw [encode_cons] at written
    by_cases ascii : c.toNat < 128
    · rw [encodeChar_ascii ascii] at written
      obtain ⟨rfl, rfl⟩ := List.cons.inj written
      exact ⟨rest, rfl, rfl⟩
    · rw [encodeChar_wide (by omega)] at written
      obtain ⟨unit, others, all⟩ := List.exists_cons_of_ne_nil (units_ne_nil c)
      rw [all, List.flatMap_cons, escapeUnit] at written
      exact absurd (List.cons.inj written).1.symm plain

private theorem encode_eq_append {run text tail : List Char} (plain : ∀ d ∈ run, d ≠ '\\')
    (written : encode text = run ++ tail) : ∃ rest, text = run ++ rest ∧ tail = encode rest := by
  induction run generalizing text with
  | nil => exact ⟨text, rfl, written.symm⟩
  | cons d run ih =>
    obtain ⟨others, rfl, left⟩ := encode_eq_cons (plain d List.mem_cons_self) written
    obtain ⟨rest, rfl, behind⟩ :=
      ih (fun e member => plain e (List.mem_cons_of_mem d member)) left.symm
    exact ⟨rest, rfl, behind⟩

private theorem ne_backslash_of_value? {c : Char} (valued : (value? c).isSome) : c ≠ '\\' := by
  rintro rfl
  exact absurd valued (by decide)

/-- The letters and digits of an escape in an encoded text were all there before. -/
private theorem escape_of_text {text behind : List Char} {unit : Nat}
    (spelled : hexadecimal4? ((encode text).dropWhile (· == 'u')) = some (unit, behind)) :
    ∃ run rest, run ≠ [] ∧ text = run ++ rest ∧ behind = encode rest := by
  obtain ⟨a, b, c, d, digits, ha, hb, hc, hd⟩ := hexadecimal4?_eq_some spelled
  have written : encode text =
      ((encode text).takeWhile (· == 'u') ++ [a, b, c, d]) ++ behind := by
    calc encode text
        = (encode text).takeWhile (· == 'u') ++ (encode text).dropWhile (· == 'u') :=
          List.takeWhile_append_dropWhile.symm
      _ = _ := by rw [digits]; simp
  have plain : ∀ e ∈ (encode text).takeWhile (· == 'u') ++ [a, b, c, d], e ≠ '\\' := by
    intro e member
    rcases List.mem_append.mp member with letter | figure
    · rintro rfl
      have same := List.all_eq_true.mp List.all_takeWhile _ letter
      exact absurd same (by decide)
    · simp only [List.mem_cons, List.not_mem_nil, or_false] at figure
      rcases figure with rfl | rfl | rfl | rfl <;> exact ne_backslash_of_value? ‹_›
  obtain ⟨rest, same, last⟩ := encode_eq_append plain written
  exact ⟨_, rest, by simp, same, last⟩

/-! ## How the reader takes a written escape -/

private theorem digit_bounds {n : Nat} (small : n < 16) :
    digit n ≠ '\\' ∧ digit n ≠ 'u' ∧ (digit n).toNat < 128 ∧ (digit n).toNat ≠ 0x5C := by
  have all : ∀ n : Fin 16, digit n ≠ '\\' ∧ digit n ≠ 'u' ∧ (digit n).toNat < 128 ∧
      (digit n).toNat ≠ 0x5C := by decide
  exact all ⟨n, small⟩

private theorem mem_hex4 {n : Nat} {d : Char} (member : d ∈ hex4 n) : ∃ k < 16, d = digit k := by
  simp only [hex4, List.mem_cons, List.not_mem_nil, or_false] at member
  rcases member with rfl | rfl | rfl | rfl <;> exact ⟨_, Nat.mod_lt _ (by decide), rfl⟩

private theorem escapeUnit_ascii {unit : Nat} {d : Char} (member : d ∈ escapeUnit unit) : d.toNat < 128 := by
  rcases List.mem_cons.mp member with rfl | member
  · decide
  · rcases List.mem_cons.mp member with rfl | member
    · decide
    · obtain ⟨k, small, rfl⟩ := mem_hex4 member
      exact (digit_bounds small).2.2.1

/-- An encoded text has no characters outside ASCII. -/
theorem ascii_of_mem_encode {text : List Char} {d : Char} (member : d ∈ encode text) : d.toNat < 128 := by
  obtain ⟨c, -, written⟩ := List.mem_flatMap.mp member
  by_cases ascii : c.toNat < 128
  · rw [encodeChar_ascii ascii] at written
    rwa [List.mem_singleton.mp written]
  · rw [encodeChar_wide (by omega)] at written
    obtain ⟨unit, -, escape⟩ := List.mem_flatMap.mp written
    exact escapeUnit_ascii escape

private theorem utf8Encode_ascii {text : List Char} (ascii : ∀ c ∈ text, c.toNat < 128) :
    text.utf8Encode = (text.map fun c => UInt8.ofNat c.toNat).toByteArray := by
  have one (c : Char) (member : c ∈ text) : String.utf8EncodeChar c = [UInt8.ofNat c.toNat] :=
    if_pos (Nat.le_of_lt_succ (ascii c member))
  unfold List.utf8Encode
  rw [List.flatMap_def, List.map_congr_left one, ← List.flatMap_def, ← List.map_eq_flatMap]

/-- The bytes of an encoded text are the ASCII codes of its characters. -/
theorem toUTF8_encoded (text : String) :
    (encoded text).toUTF8 = ((encoded text).toList.map fun c => UInt8.ofNat c.toNat).toByteArray := by
  rw [encoded, String.toList_ofList]
  exact String.toByteArray_ofList.trans (utf8Encode_ascii fun c => ascii_of_mem_encode)

theorem hexadecimal4?_hex4 {n : Nat} (small : n < 65536) (rest : List Char) :
    hexadecimal4? (hex4 n ++ rest) = some (n, rest) := by
  have whole : 4096 * (n / 4096 % 16) + 256 * (n / 256 % 16) + 16 * (n / 16 % 16) + n % 16 = n := by
    omega
  simp only [hex4, List.cons_append, List.nil_append, hexadecimal4?,
    value?_digit (Nat.mod_lt _ (show 16 > 0 by decide)), whole]

/-- Behind an even number of backslashes an escape is read as its unit. -/
theorem readFrom_escapeUnit {slashes unit : Nat} (even : slashes % 2 = 0) (small : unit < 65536)
    (rest : List Char) :
    readFrom slashes (escapeUnit unit ++ rest) = (readFrom 0 rest).map (unit :: ·) := by
  have first : digit (unit / 4096 % 16) ≠ 'u' := (digit_bounds (Nat.mod_lt _ (by decide))).2.1
  have skipped : ('u' :: (hex4 unit ++ rest)).dropWhile (· == 'u') = hex4 unit ++ rest := by
    simp [hex4, first]
  change readFrom slashes ('\\' :: 'u' :: (hex4 unit ++ rest)) = _
  exact readFrom_spelled even rfl (by rw [skipped, hexadecimal4?_hex4 small])

theorem readFrom_escapes {slashes : Nat} {written : List Nat} (even : slashes % 2 = 0)
    (some_written : written ≠ []) (small : ∀ unit ∈ written, unit < 65536) (rest : List Char) :
    readFrom slashes (written.flatMap escapeUnit ++ rest) =
      (readFrom 0 rest).map (written ++ ·) := by
  induction written generalizing slashes with
  | nil => exact absurd rfl some_written
  | cons unit others ih =>
    rw [List.flatMap_cons, List.append_assoc, readFrom_escapeUnit even (small unit List.mem_cons_self)]
    by_cases more : others = []
    · subst more
      rfl
    · rw [ih (by decide) more fun v member => small v (List.mem_cons_of_mem unit member)]
      simp [Function.comp_def]

private theorem readFrom_run {slashes : Nat} {run : List Char} (some_run : run ≠ [])
    (plain : ∀ c ∈ run, c ≠ '\\') (rest : List Char) :
    readFrom slashes (run ++ rest) = (readFrom 0 rest).map (run.flatMap units ++ ·) := by
  induction run generalizing slashes with
  | nil => exact absurd rfl some_run
  | cons c others ih =>
    rw [List.cons_append, readFrom_plain (plain c List.mem_cons_self)]
    by_cases more : others = []
    · subst more
      simp
    · rw [ih more fun d member => plain d (List.mem_cons_of_mem c member)]
      simp [Function.comp_def]

/-- Behind an odd number of backslashes, a character outside ASCII leaves the text of its first
escape, which has no backslash but the one that it starts with. -/
private theorem readFrom_encodeChar_odd {slashes : Nat} {c : Char} (odd : slashes % 2 = 1)
    (wide : 128 ≤ c.toNat) (rest : List Char) :
    ∃ kept, kept.head? = some 0x75 ∧ 0x5C ∉ kept ∧
      readFrom slashes (encodeChar c ++ rest) = (readFrom 0 rest).map (0x5C :: kept ++ ·) := by
  obtain ⟨unit, others, all⟩ := List.exists_cons_of_ne_nil (units_ne_nil c)
  have bounds := units_bounds wide
  rw [all] at bounds
  have letters : ∀ d ∈ 'u' :: hex4 unit, d ≠ '\\' ∧ d.toNat < 128 ∧ d.toNat ≠ 0x5C := by
    intro d member
    rcases List.mem_cons.mp member with rfl | member
    · decide
    · obtain ⟨k, small, rfl⟩ := mem_hex4 member
      obtain ⟨plain, -, ascii, other⟩ := digit_bounds small
      exact ⟨plain, ascii, other⟩
  refine ⟨('u' :: hex4 unit).flatMap units ++ others, ?_, ?_, ?_⟩
  · rfl
  · rw [List.mem_append, List.mem_flatMap]
    rintro (⟨d, member, same⟩ | member)
    · obtain ⟨-, ascii, other⟩ := letters d member
      rw [units_ascii ascii, List.mem_singleton] at same
      exact other same.symm
    · have := (bounds _ (List.mem_cons_of_mem unit member)).1
      omega
  · have text : encodeChar c ++ rest =
        '\\' :: (('u' :: hex4 unit) ++ (others.flatMap escapeUnit ++ rest)) := by
      rw [encodeChar_wide wide, all]
      simp [escapeUnit]
    have others_read : readFrom 0 (others.flatMap escapeUnit ++ rest) =
        (readFrom 0 rest).map (others ++ ·) := by
      by_cases more : others = []
      · subst more
        simp
      · exact readFrom_escapes (by decide) more
          (fun v member => (bounds v (List.mem_cons_of_mem unit member)).2) rest
    rw [text, readFrom_backslash (by omega),
      readFrom_run (by simp) (fun d member => (letters d member).1), others_read]
    simp [Function.comp_def]

theorem readFrom_encodeChar_even {slashes : Nat} {c : Char} (even : slashes % 2 = 0)
    (wide : 128 ≤ c.toNat) (rest : List Char) :
    readFrom slashes (encodeChar c ++ rest) = (readFrom 0 rest).map (units c ++ ·) := by
  rw [encodeChar_wide wide]
  exact readFrom_escapes even (units_ne_nil c) (fun v member => (units_bounds wide v member).2) rest

/-! ## Even runs of backslashes -/

/-- In front of a letter `u` and of a character outside ASCII every run of backslashes is even. -/
def EvenRuns (text : List Char) : Prop :=
  ∀ before slashes next after,
    text = before ++ List.replicate slashes '\\' ++ next :: after → before.getLast? ≠ some '\\' →
      (next = 'u' ∨ 128 ≤ next.toNat) → Even slashes

/-- As `EvenRuns`, for a text that stands behind a number of backslashes. -/
def EvenFrom (slashes : Nat) : List Char → Prop
  | [] => True
  | c :: rest =>
    if c = '\\' then EvenFrom (slashes + 1) rest
    else (c = 'u' ∨ 128 ≤ c.toNat → slashes % 2 = 0) ∧ EvenFrom 0 rest

private theorem evenFrom_backslash {slashes : Nat} {rest : List Char} :
    EvenFrom slashes ('\\' :: rest) ↔ EvenFrom (slashes + 1) rest := by
  rw [EvenFrom, if_pos rfl]

private theorem evenFrom_plain {slashes : Nat} {c : Char} {rest : List Char} (plain : c ≠ '\\') :
    EvenFrom slashes (c :: rest) ↔
      (c = 'u' ∨ 128 ≤ c.toNat → slashes % 2 = 0) ∧ EvenFrom 0 rest := by
  rw [EvenFrom, if_neg plain]

private theorem ne_backslash_of_marked {c : Char} (marked : c = 'u' ∨ 128 ≤ c.toNat) : c ≠ '\\' := by
  rintro rfl
  exact absurd marked (by decide)

private theorem run_unique {m n : Nat} {c d : Char} {l r : List Char} (hc : c ≠ '\\') (hd : d ≠ '\\')
    (same : List.replicate m '\\' ++ c :: l = List.replicate n '\\' ++ d :: r) : m = n ∧ c = d := by
  induction m generalizing n with
  | zero =>
    cases n with
    | zero => exact ⟨rfl, (List.cons.inj same).1⟩
    | succ n => exact absurd (List.cons.inj same).1 hc
  | succ m ih =>
    cases n with
    | zero => exact absurd (List.cons.inj same).1.symm hd
    | succ n =>
      obtain ⟨rfl, rfl⟩ := ih (List.cons.inj same).2
      exact ⟨rfl, rfl⟩

private theorem evenRuns_replicate (slashes : Nat) : EvenRuns (List.replicate slashes '\\') := by
  intro before run next after same _ marked
  have member : next ∈ List.replicate slashes '\\' := by rw [same]; simp
  exact absurd (List.eq_of_mem_replicate member) (ne_backslash_of_marked marked)

private theorem evenRuns_run {slashes : Nat} {c : Char} {rest : List Char} (plain : c ≠ '\\') :
    EvenRuns (List.replicate slashes '\\' ++ c :: rest) ↔
      (c = 'u' ∨ 128 ≤ c.toNat → slashes % 2 = 0) ∧ EvenRuns rest := by
  constructor
  · intro even
    refine ⟨fun marked => ?_, ?_⟩
    · exact Nat.even_iff.mp (even [] slashes c rest rfl (by simp) marked)
    · rintro before run next after rfl ends marked
      refine even (List.replicate slashes '\\' ++ c :: before) run next after (by simp) ?_ marked
      cases before with
      | nil => simpa using plain
      | cons d others => simpa [List.getLast?_cons] using ends
  · rintro ⟨first, others⟩ before run next after same ends marked
    rw [List.append_assoc] at same
    rcases List.append_eq_append_iff.mp same with ⟨left, rfl, behind⟩ | ⟨left, all, behind⟩
    · cases left with
      | nil =>
        -- the runs start together, so the text in front of them is empty
        obtain rfl : slashes = 0 := by
          by_contra some_slashes
          exact ends (by simp [List.getLast?_replicate, some_slashes])
        have start : List.replicate 0 '\\' ++ c :: rest = List.replicate run '\\' ++ next :: after :=
          behind
        obtain ⟨rfl, rfl⟩ := run_unique plain (ne_backslash_of_marked marked) start
        exact ⟨0, rfl⟩
      | cons d left =>
        obtain ⟨rfl, rfl⟩ := List.cons.inj behind
        refine others left run next after (List.append_assoc ..).symm ?_ marked
        intro last
        refine ends ?_
        rw [List.getLast?_append, List.getLast?_cons, last]
        rfl
    · obtain rfl : before = [] := by
        by_contra some_before
        have member : before.getLast some_before ∈ List.replicate slashes '\\' :=
          all ▸ List.mem_append_left left (List.getLast_mem some_before)
        exact ends (by rw [List.getLast?_eq_some_getLast some_before, List.eq_of_mem_replicate member])
      obtain rfl : List.replicate slashes '\\' = left := all
      obtain ⟨rfl, rfl⟩ := run_unique (ne_backslash_of_marked marked) plain behind
      exact Nat.even_iff.mpr (first marked)

private theorem evenFrom_iff {slashes : Nat} {text : List Char} :
    EvenFrom slashes text ↔ EvenRuns (List.replicate slashes '\\' ++ text) := by
  induction text generalizing slashes with
  | nil => simpa [EvenFrom] using evenRuns_replicate slashes
  | cons c rest ih =>
    by_cases slash : c = '\\'
    · subst slash
      rw [evenFrom_backslash, ih, List.replicate_succ', List.append_assoc]
      rfl
    · rw [evenFrom_plain slash, evenRuns_run slash, ih]
      rfl

/-! ## The reader on encoded texts -/

private theorem head_encode {text : List Char} :
    (encode text).head? = some 'u' ↔ text.head? = some 'u' := by
  constructor
  · intro first
    obtain ⟨tail, written⟩ := List.head?_eq_some_iff.mp first
    obtain ⟨rest, rfl, -⟩ := encode_eq_cons (by decide) written
    rfl
  · intro first
    obtain ⟨rest, rfl⟩ := List.head?_eq_some_iff.mp first
    rfl

private theorem readFrom_encode_even {slashes : Nat} {text : List Char}
    (even : EvenFrom slashes text) :
    readFrom slashes (encode text) = some (text.flatMap units) := by
  induction text generalizing slashes with
  | nil => simp [encode]
  | cons c rest ih =>
    rw [encode_cons]
    by_cases slash : c = '\\'
    · subst slash
      rw [evenFrom_backslash] at even
      have kept : ¬ (slashes % 2 = 0 ∧ (encode rest).head? = some 'u') := by
        rintro ⟨before, marked⟩
        obtain ⟨others, rfl⟩ := List.head?_eq_some_iff.mp (head_encode.mp marked)
        have := ((evenFrom_plain (by decide)).mp even).1 (.inl rfl)
        omega
      rw [encodeChar_ascii (by decide), List.cons_append, List.nil_append,
        readFrom_backslash kept, ih even]
      rfl
    · obtain ⟨first, even⟩ := (evenFrom_plain slash).mp even
      by_cases ascii : c.toNat < 128
      · rw [encodeChar_ascii ascii, List.cons_append, List.nil_append, readFrom_plain slash, ih even]
        rfl
      · have wide : 128 ≤ c.toNat := by omega
        rw [readFrom_encodeChar_even (first (.inr wide)) wide, ih even]
        rfl

/-- The units of an escape that was there before stand for one unit only, so what should be read is
then behind what was read. -/
private theorem lag_of_escape {slashes : Nat} {text : List Char} {read : List Nat}
    (even : slashes % 2 = 0) (marked : (encode text).head? = some 'u')
    (success : readFrom slashes ('\\' :: encode text) = some read) :
    ∃ unit run rest others, run ≠ [] ∧ text = run ++ rest ∧ readFrom 0 (encode rest) = some others ∧
      read = unit :: others := by
  obtain ⟨unit, behind, others, spelled, behind_read, rfl⟩ := readFrom_escape even marked success
  obtain ⟨run, rest, some_run, rfl, rfl⟩ := escape_of_text spelled
  exact ⟨unit, run, rest, others, some_run, rfl, behind_read, rfl⟩

/-- A reader that is behind the text never catches up. The lag ends in a backslash whenever the
number of backslashes is odd, and this keeps an unread escape from making up for it. -/
private theorem readFrom_encode_lag (slashes : Nat) (lag : List Nat) (text : List Char)
    (some_lag : lag ≠ []) (ends : slashes % 2 = 1 → lag.getLast? = some 0x5C) :
    readFrom slashes (encode text) ≠ some (lag ++ text.flatMap units) := by
  induction size : text.length using Nat.strong_induction_on generalizing slashes lag text with
  | _ size ih =>
  subst size
  intro success
  cases text with
  | nil => exact some_lag (by simpa [encode] using success)
  | cons c rest =>
    have shorter : rest.length < (c :: rest).length := Nat.lt_succ_self _
    rw [encode_cons, List.flatMap_cons] at success
    by_cases ascii : c.toNat < 128
    · rw [encodeChar_ascii ascii, units_ascii ascii, List.singleton_append] at success
      obtain ⟨first, lag, rfl⟩ := List.exists_cons_of_ne_nil some_lag
      by_cases escape : c = '\\' ∧ slashes % 2 = 0 ∧ (encode rest).head? = some 'u'
      · -- what the escape was written with stays to be read
        obtain ⟨rfl, even, marked⟩ := escape
        obtain ⟨unit, run, behind, others, some_run, rfl, read, same⟩ :=
          lag_of_escape even marked success
        obtain ⟨-, rfl⟩ := List.cons.inj same
        refine ih behind.length ?_ 0 (lag ++ 0x5C :: run.flatMap units) behind (by simp) (by simp) rfl ?_
        · simp only [List.length_append] at shorter
          omega
        · rw [read]
          simp
      · by_cases slash : c = '\\'
        · subst slash
          rw [readFrom_backslash fun both => escape ⟨rfl, both⟩] at success
          obtain ⟨others, read, same⟩ := Option.map_eq_some_iff.mp success
          obtain ⟨-, rfl⟩ := List.cons.inj same
          refine ih rest.length shorter (slashes + 1) (lag ++ [0x5C]) rest (by simp) (by simp) rfl ?_
          rw [read]
          simp
        · rw [readFrom_plain slash, units_ascii ascii] at success
          obtain ⟨others, read, same⟩ := Option.map_eq_some_iff.mp success
          obtain ⟨-, rfl⟩ := List.cons.inj same
          refine ih rest.length shorter 0 (lag ++ [c.toNat]) rest (by simp) (by simp) rfl ?_
          rw [read]
          simp
    · have wide : 128 ≤ c.toNat := by omega
      by_cases even : slashes % 2 = 0
      · rw [readFrom_encodeChar_even even wide] at success
        obtain ⟨others, read, same⟩ := Option.map_eq_some_iff.mp success
        refine ih rest.length shorter 0 ((lag ++ units c).drop (units c).length) rest ?_ (by simp) rfl ?_
        · have some_left := List.length_pos_iff.mpr some_lag
          refine List.length_pos_iff.mp ?_
          rw [List.length_drop, List.length_append]
          omega
        · have tails := congrArg (List.drop (units c).length) same
          rw [List.drop_left, ← List.append_assoc, List.drop_append_of_le_length (by simp)] at tails
          rw [read, tails]
      · have odd : slashes % 2 = 1 := by omega
        obtain ⟨kept, head, plain, reading⟩ := readFrom_encodeChar_odd odd wide (encode rest)
        rw [reading] at success
        obtain ⟨others, read, same⟩ := Option.map_eq_some_iff.mp success
        rcases List.append_eq_append_iff.mp same with ⟨left, rfl, behind⟩ | ⟨left, written, behind⟩
        · refine ih rest.length shorter 0 (left ++ units c) rest ?_ (by simp) rfl ?_
          · simp [units_ne_nil]
          · rw [read, behind, List.append_assoc]
        · -- the lag is within the text of the escape, so it is the one backslash there
          obtain rfl : kept = left := by
            have last := ends odd
            rw [List.getLast?_eq_some_iff] at last
            obtain ⟨front, rfl⟩ := last
            cases front with
            | nil => exact (List.cons.inj written).2
            | cons first front =>
              refine absurd ?_ plain
              rw [(List.cons.inj written).2]
              simp
          obtain ⟨unit, units_left, all⟩ := List.exists_cons_of_ne_nil (units_ne_nil c)
          have bound := (units_bounds wide unit (by rw [all]; simp)).1
          have heads := congrArg List.head? behind
          rw [all, List.head?_append, List.head?_append, head] at heads
          have same : unit = 0x75 := by simpa using heads
          omega

private theorem evenFrom_of_readFrom {slashes : Nat} {text : List Char}
    (start : slashes % 2 = 1 → text.head? ≠ some 'u')
    (success : readFrom slashes (encode text) = some (text.flatMap units)) :
    EvenFrom slashes text := by
  induction text generalizing slashes with
  | nil => trivial
  | cons c rest ih =>
    rw [encode_cons, List.flatMap_cons] at success
    by_cases ascii : c.toNat < 128
    · rw [encodeChar_ascii ascii, units_ascii ascii, List.singleton_append,
        List.singleton_append] at success
      by_cases slash : c = '\\'
      · subst slash
        rw [evenFrom_backslash]
        by_cases escape : slashes % 2 = 0 ∧ (encode rest).head? = some 'u'
        · exfalso
          obtain ⟨unit, run, behind, others, some_run, rfl, read, same⟩ :=
            lag_of_escape escape.1 escape.2 success
          obtain ⟨-, rfl⟩ := List.cons.inj same
          refine readFrom_encode_lag 0 (run.flatMap units) behind ?_ (by simp) ?_
          · obtain ⟨d, run, rfl⟩ := List.exists_cons_of_ne_nil some_run
            simp [units_ne_nil]
          · rw [read, List.flatMap_append]
        · rw [readFrom_backslash escape] at success
          obtain ⟨others, read, same⟩ := Option.map_eq_some_iff.mp success
          obtain rfl := (List.cons.inj same).2
          refine ih (fun odd marked => escape ⟨by omega, head_encode.mpr marked⟩) read
      · rw [readFrom_plain slash, units_ascii ascii] at success
        obtain ⟨others, read, same⟩ := Option.map_eq_some_iff.mp success
        obtain rfl := (List.cons.inj same).2
        refine (evenFrom_plain slash).mpr ⟨?_, ih (by simp) read⟩
        rintro (rfl | wide)
        · by_contra odd
          exact start (by omega) rfl
        · omega
    · have wide : 128 ≤ c.toNat := by omega
      have slash : c ≠ '\\' := ne_backslash_of_marked (.inr wide)
      by_cases even : slashes % 2 = 0
      · rw [readFrom_encodeChar_even even wide] at success
        obtain ⟨others, read, same⟩ := Option.map_eq_some_iff.mp success
        obtain rfl := List.append_cancel_left same
        exact (evenFrom_plain slash).mpr ⟨fun _ => even, ih (by simp) read⟩
      · exfalso
        have odd : slashes % 2 = 1 := by omega
        obtain ⟨kept, -, -, reading⟩ := readFrom_encodeChar_odd odd wide (encode rest)
        rw [reading] at success
        obtain ⟨others, -, same⟩ := Option.map_eq_some_iff.mp success
        obtain ⟨unit, units_left, all⟩ := List.exists_cons_of_ne_nil (units_ne_nil c)
        have bound := (units_bounds wide unit (by rw [all]; simp)).1
        rw [all] at same
        have first := (List.cons.inj same).1
        omega

/-- An encoded text is read back as its code units exactly if each run of backslashes in front of a
letter `u` or of a character outside ASCII is even. -/
theorem read_encoded_iff (text : String) :
    read (encoded text).toList = some (text.toList.flatMap units) ↔
      ∀ before slashes next after,
        text.toList = before ++ List.replicate slashes '\\' ++ next :: after →
          before.getLast? ≠ some '\\' → (next = 'u' ∨ 128 ≤ next.toNat) → Even slashes := by
  have written : (encoded text).toList = encode text.toList := by simp [encoded]
  rw [written, read]
  have runs : EvenFrom 0 text.toList ↔ EvenRuns text.toList := by
    exact evenFrom_iff
  constructor
  · intro success
    exact runs.mp (evenFrom_of_readFrom (by simp) success)
  · intro even
    exact readFrom_encode_even (runs.mpr even)

/-! ## Texts of code points -/

/-- No character is a surrogate. -/
theorem not_surrogate (c : Char) : c.toNat < 0xD800 ∨ 0xDFFF < c.toNat ∧ c.toNat < 0x110000 := by
  rcases c.valid with low | ⟨high, limit⟩
  · exact .inl low
  · exact .inr ⟨high, limit⟩

/-- The units of one character are not the start of the units of another one. -/
theorem units_append_inj {c d : Char} {s t : List Nat} (same : units c ++ s = units d ++ t) :
    c = d ∧ s = t := by
  have hc := not_surrogate c
  have hd := not_surrogate d
  suffices c.toNat = d.toNat ∧ s = t from ⟨Char.toNat_inj.mp this.1, this.2⟩
  unfold units at same
  split at same <;> split at same <;>
    simp only [List.cons_append, List.nil_append, List.cons.injEq] at same
  · exact same
  · have first := same.1
    omega
  · have first := same.1
    omega
  · obtain ⟨first, second, rest⟩ := same
    exact ⟨by omega, rest⟩

end JavaStubs.UnicodeEscape

namespace JavaStubs.CodePoint

open UnicodeEscape (readFrom readFrom_plain readFrom_escapeUnit readFrom_encodeChar_even units_bounds not_surrogate)

variable {s t : List CodePoint}

@[simp] theorem utf16_cons (p : CodePoint) (text : List CodePoint) : utf16 (p :: text) = p.units ++ utf16 text :=
  List.flatMap_cons

@[simp] theorem utf16_append (s t : List CodePoint) : utf16 (s ++ t) = utf16 s ++ utf16 t :=
  List.flatMap_append

theorem units_ne_nil (p : CodePoint) : p.units ≠ [] := by
  cases p with
  | char c => exact UnicodeEscape.units_ne_nil c
  | surrogate place => exact List.cons_ne_nil _ _

theorem utf16_eq_nil_iff : utf16 t = [] ↔ t = [] := by
  cases t with
  | nil => exact ⟨fun _ => rfl, fun _ => rfl⟩
  | cons p rest => simp [units_ne_nil]

/-- A code unit of ASCII is that of a character there. -/
theorem eq_char_of_mem_units {p : CodePoint} {unit : Nat} (member : unit ∈ p.units) (ascii : unit < 128) :
    p = .char (Char.ofNat unit) ∧ p.units = [unit] := by
  cases p with
  | surrogate place =>
    have same := List.mem_singleton.mp member
    omega
  | char c =>
    by_cases wide : 128 ≤ c.toNat
    · have bound := (units_bounds wide unit member).1
      omega
    · have single : UnicodeEscape.units c = [c.toNat] := UnicodeEscape.units_ascii (by omega)
      rw [units, single] at member
      rw [List.mem_singleton.mp member, Char.ofNat_toNat]
      exact ⟨rfl, single⟩

theorem mem_utf16_iff {c : Char} (ascii : c.toNat < 128) : c.toNat ∈ utf16 t ↔ char c ∈ t := by
  refine ⟨fun member => ?_, fun member => ?_⟩
  · obtain ⟨p, among, unit⟩ := List.mem_flatMap.mp member
    obtain ⟨rfl, -⟩ := eq_char_of_mem_units unit ascii
    rwa [Char.ofNat_toNat] at among
  · refine List.mem_flatMap.mpr ⟨char c, member, ?_⟩
    rw [units, UnicodeEscape.units_ascii ascii]
    exact List.mem_singleton_self _

/-- A text has the code units of a word in ASCII only if it is that word. -/
theorem utf16_eq_word_iff {word : List Char} (ascii : ∀ c ∈ word, c.toNat < 128) :
    utf16 t = word.map Char.toNat ↔ t = word.map char := by
  induction word generalizing t with
  | nil => exact utf16_eq_nil_iff
  | cons c word ih =>
    have first := ascii c List.mem_cons_self
    have others (t : List CodePoint) := ih (t := t) fun d member => ascii d (List.mem_cons_of_mem c member)
    cases t with
    | nil => exact ⟨nofun, nofun⟩
    | cons p t =>
      rw [utf16_cons, List.map_cons, List.map_cons, List.cons.injEq, ← others t]
      refine ⟨fun same => ?_, fun ⟨here, rest⟩ => ?_⟩
      · obtain ⟨unit, more, all⟩ := List.exists_cons_of_ne_nil (units_ne_nil p)
        have head : unit = c.toNat := by
          rw [all] at same
          exact (List.cons.inj same).1
        have member : unit ∈ p.units := by simp [all]
        obtain ⟨is_char, single⟩ := eq_char_of_mem_units member (head ▸ first)
        rw [single] at same
        exact ⟨by rw [is_char, head, Char.ofNat_toNat], (List.cons.inj same).2⟩
      · rw [here, units, UnicodeEscape.units_ascii first, rest]
        rfl

/-! ### Surrogates -/

/-- Behind a high surrogate no text without pairs begins with the unit of a low one. -/
theorem IsUnpaired.utf16_ne {place : Fin 0x800} {unit : Nat} {more : List Nat}
    (unpaired : IsUnpaired (surrogate place :: t)) (high : place < 0x400)
    (low : 0xDC00 ≤ unit ∧ unit < 0xE000) : utf16 t ≠ unit :: more := by
  intro same
  cases t with
  | nil => cases same
  | cons p t =>
    cases p with
    | surrogate other =>
      have first : 0xD800 + other.val = unit := (List.cons.inj same).1
      exact unpaired.1 ⟨high, show (0x400 : Fin 0x800) ≤ other by omega⟩
    | char c =>
      have range := not_surrogate c
      rw [utf16_cons, units, UnicodeEscape.units] at same
      split at same
      · have first := (List.cons.inj same).1
        omega
      · have first := (List.cons.inj same).1
        omega

/-- A surrogate of a text without pairs has not the units with which a character begins. -/
private theorem IsUnpaired.units_ne {place : Fin 0x800} {c : Char} {more : List Nat}
    (unpaired : IsUnpaired (surrogate place :: t)) :
    (surrogate place).units ++ utf16 t ≠ (char c).units ++ more := by
  have range := not_surrogate c
  intro same
  simp only [units, UnicodeEscape.units] at same
  split at same
  · have first := (List.cons.inj same).1
    omega
  · obtain ⟨first, rest⟩ := List.cons.inj same
    exact unpaired.utf16_ne (show place < (0x400 : Fin 0x800) by omega) (by omega) rest

/-- Texts in which no surrogates stand as a pair are told apart by their code units. -/
theorem utf16_injective (unpaired : IsUnpaired s) (other_unpaired : IsUnpaired t) (same : utf16 s = utf16 t) :
    s = t := by
  induction s generalizing t with
  | nil => exact (utf16_eq_nil_iff.mp same.symm).symm
  | cons p s ih =>
    cases t with
    | nil => exact utf16_eq_nil_iff.mp same
    | cons q t =>
      rw [utf16_cons, utf16_cons] at same
      obtain ⟨rfl, rest⟩ : p = q ∧ utf16 s = utf16 t := by
        cases p with
        | char c =>
          cases q with
          | char d =>
            obtain ⟨rfl, rest⟩ := UnicodeEscape.units_append_inj same
            exact ⟨rfl, rest⟩
          | surrogate place => exact absurd same.symm other_unpaired.units_ne
        | surrogate place =>
          cases q with
          | char d => exact absurd same unpaired.units_ne
          | surrogate other =>
            obtain ⟨first, rest⟩ := List.cons.inj same
            exact ⟨congrArg surrogate (Fin.ext (by omega)), rest⟩
      rw [ih unpaired.tail other_unpaired.tail rest]

/-! ### Texts without backslashes -/

/-- Without backslashes in it, an encoded text is read as its code units. -/
theorem readFrom_encode (plain : char '\\' ∉ t) : readFrom 0 (encode t) = some (utf16 t) := by
  induction t with
  | nil => exact UnicodeEscape.readFrom_nil 0
  | cons p t ih =>
    obtain ⟨first, others⟩ := List.ne_and_not_mem_of_not_mem_cons plain
    have rest := ih others
    rw [encode, List.flatMap_cons, ← encode, utf16_cons]
    cases p with
    | surrogate place =>
      rw [encodePoint, readFrom_escapeUnit (by decide) (by omega), rest]
      rfl
    | char c =>
      rw [encodePoint]
      by_cases wide : 128 ≤ c.toNat
      · rw [readFrom_encodeChar_even (by decide) wide, rest]
        rfl
      · have kept : UnicodeEscape.encodeChar c = [c] := if_pos (by omega)
        rw [kept, List.singleton_append, readFrom_plain fun same => first (same ▸ rfl), rest]
        rfl

/-- Two texts without backslashes are written alike only if they have the same code units. -/
theorem utf16_eq_of_encode_eq (plain : char '\\' ∉ s) (other_plain : char '\\' ∉ t)
    (same : encode s = encode t) : utf16 s = utf16 t := by
  have read := readFrom_encode plain
  rw [same, readFrom_encode other_plain] at read
  exact (Option.some.inj read).symm

end JavaStubs.CodePoint

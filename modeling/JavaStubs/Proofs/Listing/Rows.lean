import JavaStubs.Java.Listing
import JavaStubs.Proofs.Text.Trimming

/-!
Rows of the table of inner classes. A row is a pattern with free columns: blanks, words in small letters, a
reference into the constant pool, two more if the class has an owner, and behind a semicolon a remark with the
binary name of the class. Exactly the lines that are such rows are read, as the modifiers and the name of the
class; so a row that is written from its parts is read back.
-/
namespace JavaStubs.Listing

open Text (isBlank isLowerAscii isDecimalDigit pastStart?)

variable {text rest number enclosing : List Char}

/-- A row of the table: an indentation, modifiers, three references into the constant pool, and behind a
gap a remark with the simple name of a class, its binary name and that of its owner. -/
structure Row where
  indent : List Char
  modifiers : List (List Char)
  inner : List Char
  outer : List Char
  named : List Char
  gap : List Char
  simple : List Char
  name : List Char
  owner : List Char

namespace Row

/-- The modifiers of a row, with a blank behind each. -/
def modifierText (row : Row) : List Char := row.modifiers.flatMap (· ++ [' '])

def remark (row : Row) : List Char :=
  (row.simple ++ "=class".toList) ++ ' ' :: (row.name ++ (" of class ".toList ++ row.owner))

/-- A row behind the mark of its first reference. -/
def references (row : Row) : List Char :=
  row.inner ++ ("= #".toList ++ (row.outer ++ (" of #".toList ++ (row.named ++ ';' ::
    (row.gap ++ ("// ".toList ++ row.remark))))))

def line (row : Row) : List Char := row.indent ++ (row.modifierText ++ '#' :: row.references)

/-- A reference is written in digits, at least one. -/
def IsReference (text : List Char) : Prop := text ≠ [] ∧ ∀ c ∈ text, isDecimalDigit c = true

instance (text : List Char) : Decidable (IsReference text) := inferInstanceAs (Decidable (_ ∧ _))

/-- The parts of a row are what they are said to be: blanks, words in small letters, numbers, and names
without a blank. -/
structure IsProper (row : Row) : Prop where
  indented : row.indent ≠ [] ∧ ∀ c ∈ row.indent, isBlank c = true
  small : ∀ word ∈ row.modifiers, word ≠ [] ∧ ∀ c ∈ word, isLowerAscii c = true
  inner : IsReference row.inner
  outer : IsReference row.outer
  named : IsReference row.named
  gap : ∀ c ∈ row.gap, isBlank c = true
  simple : ∀ c ∈ row.simple, isBlank c = false
  name : row.name ≠ [] ∧ ∀ c ∈ row.name, isBlank c = false

/-- The name that a row gives a private class, as in source text. -/
def privateName? (row : Row) : Option String :=
  if "private".toList ∈ row.modifiers
  then some (Text.replaced (· == '/') '.' (String.ofList row.name)) else none

end Row

/-! ## Pieces of a line -/

theorem dropWhile_append {p : Char → Bool} {front rest : List Char}
    (goes : ∀ c ∈ front, p c = true) (stays : rest.head?.all (!p ·) = true) :
    (front ++ rest).dropWhile p = rest := by
  rw [List.dropWhile_append_of_pos goes]
  cases rest with
  | nil => rfl
  | cons c rest => exact List.dropWhile_cons_of_neg (by simpa using stays)

theorem takeWhile_append {p : Char → Bool} {front rest : List Char}
    (goes : ∀ c ∈ front, p c = true) (stays : rest.head?.all (!p ·) = true) :
    (front ++ rest).takeWhile p = front := by
  rw [List.takeWhile_append_of_pos goes]
  cases rest with
  | nil => simp
  | cons c rest => rw [List.takeWhile_cons_of_neg (by simpa using stays), List.append_nil]

/-- A text falls into a part that `p` holds of and one that begins with nothing of the kind. -/
theorem exists_cut (p : Char → Bool) (text : List Char) : ∃ front rest, text = front ++ rest ∧
    text.takeWhile p = front ∧ text.dropWhile p = rest ∧ (∀ c ∈ front, p c = true) ∧
    rest.head?.all (!p ·) = true := by
  refine ⟨_, _, (List.takeWhile_append_dropWhile ..).symm, rfl, rfl, fun c => List.mem_takeWhile_imp, ?_⟩
  cases behind : text.dropWhile p with
  | nil => rfl
  | cons c rest =>
    have kept := List.head?_dropWhile_not p text
    rw [behind] at kept
    simpa using kept

theorem pastStart?_append (start rest : List Char) :
    pastStart? start (start ++ rest) = some rest := by
  simp [pastStart?]

theorem pastStart?_eq_some_iff {start : List Char} : pastStart? start text = some rest ↔ text = start ++ rest := by
  constructor
  · intro found
    unfold pastStart? at found
    split at found
    · next begins =>
      obtain ⟨tail, rfl⟩ := List.isPrefixOf_iff_prefix.mp begins
      rw [List.drop_left] at found
      rw [Option.some.inj found]
    · cases found
  · rintro rfl
    exact pastStart?_append start rest

theorem pastDigits?_append (digits : Row.IsReference number)
    (stays : rest.head?.all (!isDecimalDigit ·) = true) : pastDigits? (number ++ rest) = some rest := by
  obtain ⟨some_digit, all⟩ := digits
  obtain ⟨c, others, rfl⟩ := List.exists_cons_of_ne_nil some_digit
  have first : isDecimalDigit c = true := all c List.mem_cons_self
  rw [pastDigits?, if_pos (by simpa using first), dropWhile_append all stays]

theorem exists_reference (found : pastDigits? text = some rest) :
    ∃ number, Row.IsReference number ∧ text = number ++ rest := by
  unfold pastDigits? at found
  split at found
  · next first =>
    obtain ⟨front, behind, whole, -, dropped, digits, -⟩ := exists_cut isDecimalDigit text
    rw [dropped] at found
    obtain rfl := Option.some.inj found
    refine ⟨front, ⟨?_, digits⟩, whole⟩
    rintro rfl
    rw [List.nil_append] at whole
    cases text with
    | nil => cases first
    | cons c rest =>
      rw [List.dropWhile_cons_of_pos (by simpa using first)] at dropped
      have shorter := (List.dropWhile_sublist isDecimalDigit (l := rest)).length_le
      rw [dropped, ← whole, List.length_cons] at shorter
      omega
  · cases found

/-- What a row refers to besides its class: nothing, or the class that encloses it and its name. -/
inductive IsEnclosing : List Char → Prop where
  | none : IsEnclosing []
  | some {outer named : List Char} (first : Row.IsReference outer) (second : Row.IsReference named) :
      IsEnclosing ("= #".toList ++ (outer ++ (" of #".toList ++ named)))

theorem IsEnclosing.begins (is_enclosing : IsEnclosing enclosing) :
    (enclosing ++ ';' :: rest).head?.all (!isDecimalDigit ·) = true := by
  cases is_enclosing with
  | none => simp; decide
  | some first second => simp; decide

theorem pastEnclosing_append (is_enclosing : IsEnclosing enclosing) :
    pastEnclosing (enclosing ++ ';' :: rest) = ';' :: rest := by
  cases is_enclosing with
  | none => simp [pastEnclosing, pastStart?]
  | @some outer named first second =>
    have behind_outer : pastDigits? (outer ++ (" of #".toList ++ (named ++ ';' :: rest))) =
        some (" of #".toList ++ (named ++ ';' :: rest)) := pastDigits?_append first (by simp; decide)
    have behind_named : pastDigits? (named ++ ';' :: rest) = some (';' :: rest) :=
      pastDigits?_append second (by simp; decide)
    rw [List.append_assoc, List.append_assoc, List.append_assoc, pastEnclosing, pastStart?_append]
    simp only [Option.bind_eq_bind, Option.bind_some, behind_outer, pastStart?_append, behind_named,
      Option.getD_some]

theorem exists_enclosing (text : List Char) :
    ∃ enclosing, IsEnclosing enclosing ∧ text = enclosing ++ pastEnclosing text := by
  unfold pastEnclosing
  cases past : (do
      let text ← pastDigits? (← pastStart? "= #".toList text)
      pastDigits? (← pastStart? " of #".toList text)) with
  | none => exact ⟨[], .none, rfl⟩
  | some rest =>
    simp only [Option.bind_eq_bind, Option.bind_eq_some_iff, pastStart?_eq_some_iff] at past
    obtain ⟨behind_mark, rfl, behind_outer, outer_found, between, rfl, named_found⟩ := past
    obtain ⟨outer, first, rfl⟩ := exists_reference outer_found
    obtain ⟨named, second, rfl⟩ := exists_reference named_found
    exact ⟨_, .some first second, by simp⟩

/-! ## Rows with any columns -/

/-- The columns of a row of the table, with the blanks around them. -/
structure InnerRow where
  indent : List Char
  modifiers : List Char
  gap : List Char
  number : List Char
  enclosing : List Char
  space : List Char
  margin : List Char
  simple : List Char
  name : List Char
  rest : List Char

namespace InnerRow

def remark (row : InnerRow) : List Char :=
  (row.simple ++ "=class".toList) ++ ' ' :: (row.name ++ row.rest)

/-- A row behind its modifiers. -/
def references (row : InnerRow) : List Char :=
  '#' :: (row.number ++ (row.enclosing ++ ';' :: (row.space ++ ("//".toList ++ (row.margin ++ row.remark)))))

def line (row : InnerRow) : List Char := row.indent ++ ((row.modifiers ++ row.gap) ++ row.references)

/-- The columns of a row are what they are said to be. -/
structure IsProper (row : InnerRow) : Prop where
  indented : row.indent ≠ [] ∧ ∀ c ∈ row.indent, isBlank c = true
  small : ∀ c ∈ row.modifiers, isLowerAscii c = true ∨ c = ' '
  gap : ∀ c ∈ row.gap, isBlank c = true
  number : Row.IsReference row.number
  enclosing : IsEnclosing row.enclosing
  space : ∀ c ∈ row.space, isBlank c = true
  margin : ∀ c ∈ row.margin, isBlank c = true
  simple : ∀ c ∈ row.simple, isBlank c = false
  name : row.name ≠ [] ∧ ∀ c ∈ row.name, isBlank c = false
  rest : row.rest.head?.all isBlank = true

/-- The modifiers of the class of a row. -/
def words (row : InnerRow) : List String := (Text.words row.modifiers).map String.ofList

/-- The name of the class of a row, as in source text. -/
def className (row : InnerRow) : String := Text.replaced (· == '/') '.' (String.ofList row.name)

end InnerRow

theorem blank_of_lower {c : Char} (lower : isLowerAscii c = true) : isBlank c = false ∧ c ≠ '#' := by
  simp only [isLowerAscii, Bool.and_eq_true, decide_eq_true_eq] at lower
  have bounds : 97 ≤ c.toNat ∧ c.toNat ≤ 122 := lower
  constructor
  · simp only [isBlank, Text.inRanges, Text.blankRanges, List.any_eq_false]
    simp
    omega
  · rintro rfl
    exact absurd bounds (by decide)

section Rows
variable {row : InnerRow}

/-- The text in front of the first reference, without the blanks that lead it. -/
def InnerRow.front (row : InnerRow) : List Char := (row.modifiers ++ row.gap).dropWhile isBlank

theorem dropWhile_line (proper : row.IsProper) : row.line.dropWhile isBlank = row.front ++ row.references := by
  obtain ⟨blank, rest, whole, -, dropped, all_blank, stays⟩ := exists_cut isBlank (row.modifiers ++ row.gap)
  rw [InnerRow.line, InnerRow.front, dropped, whole, List.dropWhile_append_of_pos proper.indented.2,
    List.append_assoc]
  refine dropWhile_append all_blank ?_
  cases rest with
  | nil => exact by simp [InnerRow.references]; decide
  | cons c rest => exact stays

theorem length_front_lt (proper : row.IsProper) : (row.front ++ row.references).length < row.line.length := by
  have indented := List.length_pos_iff.mpr proper.indented.1
  have shorter := (List.dropWhile_sublist isBlank (l := row.modifiers ++ row.gap)).length_le
  rw [InnerRow.line, InnerRow.front, List.length_append, List.length_append, List.length_append]
  omega

/-- In front of the mark of the first reference there is no such mark. -/
theorem unmarked_front (proper : row.IsProper) : ∀ c ∈ row.front, (c != '#') = true := by
  intro c member
  rw [bne_iff_ne]
  rintro rfl
  rcases List.mem_append.mp ((List.dropWhile_sublist isBlank).subset member) with member | member
  · rcases proper.small _ member with lower | same
    · exact (blank_of_lower lower).2 rfl
    · exact absurd same (by decide)
  · exact absurd (proper.gap _ member) (by decide)

theorem dropTrailing_front (proper : row.IsProper) :
    Text.dropTrailing isBlank row.front = Text.trim row.modifiers := by
  have all : row.gap.all isBlank = true := List.all_eq_true.mpr proper.gap
  have trimmed : Text.trim (row.modifiers ++ row.gap) = Text.trim row.modifiers := by
    rw [Text.trim_eq, Text.dropTrailing_append, if_pos all, ← Text.trim_eq]
  exact trimmed

theorem small_modifiers (proper : row.IsProper) :
    (Text.trim row.modifiers).all (fun c => isLowerAscii c || c == ' ') = true := by
  rw [List.all_eq_true]
  intro c member
  have inside : c ∈ row.modifiers :=
    (List.dropWhile_sublist isBlank).subset ((List.rdropWhile_prefix isBlank _).subset member)
  simpa using proper.small c inside

theorem solid_class (proper : row.IsProper) : ∀ c ∈ row.simple ++ "=class".toList, (!isBlank c) = true := by
  intro c member
  rcases List.mem_append.mp member with member | member
  · simpa using proper.simple c member
  · have all : ∀ c ∈ "=class".toList, (!isBlank c) = true := by decide
    exact all c member

theorem visible_remark (proper : row.IsProper) : row.remark.head?.all (!isBlank ·) = true := by
  unfold InnerRow.remark
  cases all : row.simple with
  | nil =>
    simp
    decide
  | cons c rest => simpa using proper.simple c (by simp [all])

end Rows

/-- What a row says is read back from it. -/
theorem innerClass?_line {row : InnerRow} (proper : row.IsProper) :
    innerClass? row.line = some (row.words, row.className) := by
  have modifiers : (row.front ++ row.references).takeWhile (· != '#') = row.front :=
    takeWhile_append (unmarked_front proper) (by simp [InnerRow.references])
  have at_mark : (row.front ++ row.references).dropWhile (· != '#') = ['#'] ++ (row.number ++
      (row.enclosing ++ ';' :: (row.space ++ ("//".toList ++ (row.margin ++ row.remark))))) :=
    dropWhile_append (unmarked_front proper) (by simp [InnerRow.references])
  have behind_number (rest : List Char) :
      pastDigits? (row.number ++ (row.enclosing ++ ';' :: rest)) = some (row.enclosing ++ ';' :: rest) :=
    pastDigits?_append proper.number proper.enclosing.begins
  have behind_end (rest : List Char) : pastStart? [';'] (';' :: rest) = some rest :=
    pastStart?_append [';'] rest
  have at_remark : (row.space ++ ("//".toList ++ (row.margin ++ row.remark))).dropWhile isBlank =
      ['/', '/'] ++ (row.margin ++ row.remark) := dropWhile_append proper.space (by simp; decide)
  have behind_margin : (row.margin ++ row.remark).dropWhile isBlank = row.remark :=
    dropWhile_append proper.margin (visible_remark proper)
  have mark : row.remark.takeWhile (!isBlank ·) = row.simple ++ "=class".toList :=
    takeWhile_append (solid_class proper) (by simp; decide)
  have marked : "=class".toList.isSuffixOf (row.simple ++ "=class".toList) = true :=
    List.isSuffixOf_iff_suffix.mpr (List.suffix_append _ _)
  have behind_mark : row.remark.dropWhile (!isBlank ·) = [' '] ++ (row.name ++ row.rest) :=
    dropWhile_append (solid_class proper) (by simp; decide)
  have name : (row.name ++ row.rest).takeWhile (!isBlank ·) = row.name :=
    takeWhile_append (fun c member => by simpa using proper.name.2 c member) (by simpa using proper.rest)
  unfold innerClass? guard
  simp only [dropWhile_line proper, length_front_lt proper, modifiers, dropTrailing_front proper,
    small_modifiers proper, Text.words_trim, at_mark, pastStart?_append, Option.bind_eq_bind, Option.bind_some,
    behind_number, pastEnclosing_append proper.enclosing, behind_end, at_remark, behind_margin, mark, marked,
    behind_mark, name]
  simp [proper.name.1, InnerRow.words, InnerRow.className]

private theorem of_guard {p : Prop} [Decidable p] {u : Unit}
    (passed : (if p then pure () else failure) = some u) : p := by
  split at passed
  · next holds => exact holds
  · cases passed

/-- A note that begins with the mark of a class has a simple name in front of it. -/
private theorem exists_simple {note behind : List Char}
    (marked : "=class".toList.isSuffixOf (note.takeWhile (!isBlank ·)) = true)
    (blank : note.dropWhile (!isBlank ·) = [' '] ++ behind) :
    ∃ simple, note = simple ++ "=class".toList ++ ([' '] ++ behind) ∧ ∀ c ∈ simple, (!isBlank c) = true := by
  obtain ⟨mark, rest, rfl, at_mark, behind_mark, solid, -⟩ := exists_cut (!isBlank ·) note
  rw [at_mark] at marked
  obtain ⟨simple, rfl⟩ := List.isSuffixOf_iff_suffix.mp marked
  exact ⟨simple, by rw [← blank, behind_mark], fun c member => solid c (List.mem_append_left _ member)⟩

/-- A line that is read as a row is one. -/
theorem exists_innerRow {line : List Char} {modifiers : List String} {name : String}
    (found : innerClass? line = some (modifiers, name)) :
    ∃ row : InnerRow, row.IsProper ∧ line = row.line ∧ modifiers = row.words ∧ name = row.className := by
  obtain ⟨indent, text, rfl, -, row_text, indented, -⟩ := exists_cut isBlank line
  obtain ⟨front, marked, rfl, front_text, marked_text, -, -⟩ := exists_cut (· != '#') text
  unfold innerClass? guard at found
  simp only [row_text, front_text, marked_text, Option.bind_eq_bind,
    Option.bind_eq_some_iff, pastStart?_eq_some_iff] at found
  obtain ⟨_, shorter, _, small, digits, rfl, past_number, number_found, past_owner, owner_found, past_end,
    remark_found, _, class_found, past_class, name_found, _, some_name, same⟩ := found
  obtain ⟨number, is_reference, rfl⟩ := exists_reference number_found
  obtain ⟨enclosing, is_enclosing, owner⟩ := exists_enclosing past_number
  rw [owner_found] at owner
  obtain ⟨space, remark, rfl, -, at_remark, space_blank, -⟩ := exists_cut isBlank past_owner
  obtain rfl := at_remark.symm.trans remark_found
  obtain ⟨margin, note, rfl, -, at_note, margin_blank, -⟩ := exists_cut isBlank past_end
  rw [at_note] at class_found name_found
  obtain ⟨simple, rfl, mark_solid⟩ := exists_simple (of_guard class_found) name_found
  obtain ⟨written, rest, rfl, at_name, -, name_solid, stays⟩ := exists_cut (!isBlank ·) past_class
  rw [at_name] at some_name same
  obtain ⟨rfl, rfl⟩ := Prod.mk.inj (Option.some.inj same)
  have cut : Text.dropTrailing isBlank front ++ front.rtakeWhile isBlank = front :=
    List.rdropWhile_append_rtakeWhile ..
  refine ⟨⟨indent, Text.dropTrailing isBlank front, front.rtakeWhile isBlank, number, enclosing, space, margin,
    simple, written, rest⟩, ⟨⟨?_, indented⟩, fun c member => ?_, fun c => List.mem_rtakeWhile_imp,
    is_reference, is_enclosing, space_blank, margin_blank, fun c member => ?_, ⟨?_, fun c member => ?_⟩, ?_⟩,
    ?_, rfl, rfl⟩
  · rintro rfl
    exact absurd (of_guard shorter) (lt_irrefl _)
  · simpa using List.all_eq_true.mp (of_guard small) c member
  · simpa using mark_solid c member
  · simpa using of_guard some_name
  · simpa using name_solid c member
  · simpa using stays
  · rw [owner]
    simp only [InnerRow.line, InnerRow.references, InnerRow.remark, cut]
    simp

theorem innerClass?_eq_some_iff {line : List Char} {modifiers : List String} {name : String} :
    innerClass? line = some (modifiers, name) ↔
      ∃ row : InnerRow, row.IsProper ∧ line = row.line ∧ modifiers = row.words ∧ name = row.className := by
  constructor
  · exact exists_innerRow
  · rintro ⟨row, proper, rfl, rfl, rfl⟩
    exact innerClass?_line proper

/-! ## Rows as they are printed -/

/-- The columns of a row. -/
def Row.columns (row : Row) : InnerRow where
  indent := row.indent
  modifiers := row.modifierText
  gap := []
  number := row.inner
  enclosing := "= #".toList ++ (row.outer ++ (" of #".toList ++ row.named))
  space := row.gap
  margin := [' ']
  simple := row.simple
  name := row.name
  rest := " of class ".toList ++ row.owner

variable {row : Row}

theorem Row.line_columns (row : Row) : row.columns.line = row.line := by
  simp [columns, InnerRow.line, InnerRow.references, InnerRow.remark, line, references, remark]

theorem Row.IsProper.columns (proper : row.IsProper) : row.columns.IsProper where
  indented := proper.indented
  small := by
    intro c member
    obtain ⟨word, inside, member⟩ := List.mem_flatMap.mp member
    rcases List.mem_append.mp member with member | member
    · exact .inl ((proper.small word inside).2 c member)
    · exact .inr (List.mem_singleton.mp member)
  gap := nofun
  number := proper.inner
  enclosing := .some proper.outer proper.named
  space := proper.gap
  margin := List.forall_mem_singleton.mpr (by decide)
  simple := proper.simple
  name := proper.name
  rest := rfl

theorem words_modifierText (proper : row.IsProper) : Text.words row.modifierText = row.modifiers :=
  Text.words_flatMap (by decide) fun word member =>
    ⟨(proper.small word member).1, fun c inside =>
      (blank_of_lower ((proper.small word member).2 c inside)).1⟩

/-- What a row says is read back from it. -/
theorem innerClass?_row (proper : row.IsProper) :
    innerClass? row.line = some (row.modifiers.map String.ofList,
      Text.replaced (· == '/') '.' (String.ofList row.name)) := by
  have words : row.columns.words = row.modifiers.map String.ofList :=
    congrArg (List.map String.ofList) (words_modifierText proper)
  rw [← row.line_columns, innerClass?_line proper.columns, words]
  rfl

end JavaStubs.Listing

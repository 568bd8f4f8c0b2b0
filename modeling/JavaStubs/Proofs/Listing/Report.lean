import JavaStubs.Java.Listing
import JavaStubs.Proofs.Files.Names
import JavaStubs.Proofs.Listing.Rows
import JavaStubs.Proofs.Text.Lines

/-!
Reports on a class as they are written. A report is made of sections: lines without a heading, a heading
and more lines, the members between braces, and a table of inner classes behind them. Between the lines
of a member that matter there may be any others.

A heading is made of modifiers, the kind of a class and a text behind it; where a line can be read as one in
several ways, the reader takes the one with the most modifiers.
-/
namespace JavaStubs.Listing

/-! ## Headings -/

section Headings

open Text (fields isBlank isLowerAscii)

variable {line rest : List Char} {modifiers : List (List Char)} {kind : String}

/-- A line is made of modifiers, words in small letters with a blank behind each, the word for a kind of
class, a blank, and a text that begins with no blank. -/
structure IsHeading (line : List Char) (modifiers : List (List Char)) (kind : String)
    (rest : List Char) : Prop where
  line_eq : line = modifiers.flatMap (· ++ [' ']) ++ (kind.toList ++ ' ' :: rest)
  small : ∀ word ∈ modifiers, word ≠ [] ∧ ∀ c ∈ word, isLowerAscii c = true
  kind_mem : kind.toList ∈ kinds
  begins : rest.head?.any (!isBlank ·) = true

/-- A line names a kind of class in front of a text: it is a heading with these, and no reading of it
has more modifiers. -/
def Heads (line : List Char) (kind : String) (rest : List Char) : Prop :=
  ∃ modifiers, IsHeading line modifiers kind rest ∧
    ∀ others kind' rest', IsHeading line others kind' rest' → others.length ≤ modifiers.length

/-! ### Headings by their fields -/

/-- The fields of a heading: the modifiers, the kind, and those of the text behind it. -/
structure IsSplit (words modifiers : List (List Char)) (kind : String) (next : List Char)
    (more : List (List Char)) : Prop where
  words_eq : words = modifiers ++ kind.toList :: next :: more
  small : ∀ word ∈ modifiers, word ≠ [] ∧ ∀ c ∈ word, isLowerAscii c = true
  kind_mem : kind.toList ∈ kinds
  begins : next.head?.any (!isBlank ·) = true

private theorem small_of_mem_kinds {word : List Char} (member : word ∈ kinds) :
    word ≠ [] ∧ ∀ c ∈ word, isLowerAscii c = true := by
  have all : ∀ word ∈ kinds, word ≠ [] ∧ ∀ c ∈ word, isLowerAscii c = true := by decide
  exact all word member

private theorem undivided_of_small {word : List Char} (small : ∀ c ∈ word, isLowerAscii c = true) :
    ' ' ∉ word := fun member => absurd (small ' ' member) (by decide)

theorem IsSplit.first_small {word : List Char} {words more : List (List Char)} {next : List Char}
    (split : IsSplit (word :: words) modifiers kind next more) :
    word ≠ [] ∧ ∀ c ∈ word, isLowerAscii c = true := by
  cases modifiers with
  | nil =>
    obtain ⟨rfl, -⟩ := List.cons.inj split.words_eq
    exact small_of_mem_kinds split.kind_mem
  | cons first others =>
    obtain ⟨rfl, -⟩ := List.cons.inj split.words_eq
    exact split.small word List.mem_cons_self

/-- Without its first modifier a heading is one still. -/
theorem IsSplit.tail {word first : List Char} {words others more : List (List Char)}
    {next : List Char} (split : IsSplit (word :: words) (first :: others) kind next more) :
    IsSplit words others kind next more :=
  ⟨(List.cons.inj split.words_eq).2, fun other member =>
    split.small other (List.mem_cons_of_mem first member), split.kind_mem, split.begins⟩

/-- What the reader takes a line for, by its fields. -/
def Reading (words : List (List Char)) : Option (String × List Char) → Prop
  | none => ∀ modifiers kind next more, ¬ IsSplit words modifiers kind next more
  | some (kind, rest) => ∃ modifiers next more, IsSplit words modifiers kind next more ∧
      rest = [' '].intercalate (next :: more) ∧
      ∀ others kind' next' more', IsSplit words others kind' next' more' →
        others.length ≤ modifiers.length

theorem heading?_reading (words : List (List Char)) : Reading words (heading? words) := by
  fun_induction heading? words with
  | case1 word next more capital =>
    intro modifiers kind next' more' split
    obtain ⟨some_word, small⟩ := split.first_small
    have all_small : word.all isLowerAscii = true := List.all_eq_true.mpr small
    simp [some_word, all_small] at capital
  | case2 word next more small found recursion ih =>
    obtain ⟨kind, rest⟩ := found
    rw [recursion] at ih
    obtain ⟨modifiers, first, others, split, rest_eq, longest⟩ := ih
    have word_small : word ≠ [] ∧ ∀ c ∈ word, isLowerAscii c = true := by
      simpa using small
    refine ⟨word :: modifiers, first, others, ⟨?_, ?_, split.kind_mem, split.begins⟩, rest_eq, ?_⟩
    · rw [split.words_eq, List.cons_append]
    · intro other member
      rcases List.mem_cons.mp member with rfl | member
      · exact word_small
      · exact split.small other member
    · intro other kind' next' more' also
      cases other with
      | nil => simp
      | cons first' other => simpa using longest _ _ _ _ also.tail
  | case3 word next more small recursion named ih =>
    rw [recursion] at ih
    simp only [Bool.and_eq_true, List.contains_iff_mem] at named
    refine ⟨[], next, more, ⟨?_, by simp, ?_, named.2⟩, rfl, ?_⟩
    · simp
    · simpa using named.1
    · intro other kind' next' more' also
      cases other with
      | nil => simp
      | cons first' other => exact absurd also.tail (ih _ _ _ _)
  | case4 word next more small recursion unnamed ih =>
    rw [recursion] at ih
    intro modifiers kind next' more' split
    cases modifiers with
    | nil =>
      obtain ⟨rfl, same⟩ := List.cons.inj split.words_eq
      obtain ⟨rfl, -⟩ := List.cons.inj same
      have member := split.kind_mem
      have begins := split.begins
      simp [begins, member] at unnamed
    | cons first others => exact ih _ _ _ _ split.tail
  | case5 words short =>
    intro modifiers kind next more split
    cases modifiers with
    | nil => exact short _ _ _ split.words_eq
    | cons first others =>
      cases others with
      | nil => exact short _ _ _ split.words_eq
      | cons second others => exact short _ _ _ split.words_eq

/-! ### Headings by their text -/

theorem IsHeading.split (heading : IsHeading line modifiers kind rest) :
    ∃ next more, fields (· == ' ') rest = next :: more ∧
      IsSplit (fields (· == ' ') line) modifiers kind next more := by
  obtain ⟨rfl, small, kind_mem, begins⟩ := heading
  cases rest with
  | nil => cases begins
  | cons c behind =>
    have visible : isBlank c = false := by simpa using begins
    have other : ¬ (c == ' ') = true := by
      rw [beq_iff_eq]
      rintro rfl
      exact absurd visible (by decide)
    obtain ⟨first, more, all⟩ := List.exists_cons_of_ne_nil (Text.fields_ne_nil (· == ' ') behind)
    have split_rest : fields (· == ' ') (c :: behind) = (c :: first) :: more := by
      rw [fields, if_neg other, all]
    refine ⟨c :: first, more, split_rest, ?_, small, kind_mem, by simpa using visible⟩
    have at_kind : fields (· == ' ') (kind.toList ++ ' ' :: c :: behind) =
        kind.toList :: (c :: first) :: more := by
      rw [Path.fields_append (undivided_of_small (small_of_mem_kinds kind_mem).2), split_rest]
    clear begins
    induction modifiers with
    | nil => exact at_kind
    | cons word others ih =>
      have undivided := undivided_of_small (small word List.mem_cons_self).2
      rw [List.flatMap_cons, List.append_assoc, List.append_assoc, List.singleton_append,
        Path.fields_append undivided, ih fun other member => small other (List.mem_cons_of_mem word member)]
      rfl

theorem IsSplit.heading {next : List Char} {more : List (List Char)}
    (split : IsSplit (fields (· == ' ') line) modifiers kind next more) :
    IsHeading line modifiers kind ([' '].intercalate (next :: more)) := by
  obtain ⟨words_eq, small, kind_mem, begins⟩ := split
  refine ⟨?_, small, kind_mem, ?_⟩
  · have whole := Text.intercalate_fields ' ' line
    rw [words_eq] at whole
    rw [← whole]
    clear whole words_eq small
    induction modifiers with
    | nil => rw [List.nil_append, List.intercalate_cons_cons, List.append_assoc]; rfl
    | cons word others ih =>
      obtain ⟨second, tail, all⟩ : ∃ second tail,
          others ++ kind.toList :: next :: more = second :: tail :=
        List.exists_cons_of_ne_nil (by simp)
      rw [List.cons_append, all, List.intercalate_cons_cons, ← all, ih, List.flatMap_cons]
      simp only [List.append_assoc]
  · cases next with
    | nil => cases begins
    | cons c next =>
      cases more with
      | nil => simpa using begins
      | cons word more => simpa [List.intercalate_cons_cons] using begins

/-- A line names the kind and the text that the reader takes from it. -/
theorem heads_iff : Heads line kind rest ↔ heading? (fields (· == ' ') line) = some (kind, rest) := by
  have reading := heading?_reading (fields (· == ' ') line)
  constructor
  · rintro ⟨modifiers, heading, longest⟩
    obtain ⟨next, more, rest_fields, split⟩ := heading.split
    cases found : heading? (fields (· == ' ') line) with
    | none =>
      rw [found] at reading
      exact absurd split (reading _ _ _ _)
    | some other =>
      obtain ⟨kind', rest'⟩ := other
      rw [found] at reading
      obtain ⟨others, next', more', also, rfl, longest'⟩ := reading
      -- both readings have the most modifiers, so they are the same one
      have same_length : modifiers.length = others.length :=
        Nat.le_antisymm (longest' _ _ _ _ split) (longest _ _ _ also.heading)
      have same := split.words_eq.symm.trans also.words_eq
      obtain ⟨-, same⟩ := List.append_inj same same_length
      obtain ⟨same_kind, same_rest⟩ := List.cons.inj same
      obtain rfl : kind = kind' := String.toList_inj.mp same_kind
      rw [← same_rest, ← rest_fields, Text.intercalate_fields]
  · intro found
    rw [found] at reading
    obtain ⟨modifiers, next, more, split, rfl, longest⟩ := reading
    refine ⟨modifiers, split.heading, fun others kind' rest' heading => ?_⟩
    obtain ⟨next', more', -, also⟩ := heading.split
    exact longest _ _ _ _ also

/-- A line that is no heading is none to the reader. -/
theorem heading?_eq_none_iff : heading? (fields (· == ' ') line) = none ↔
    ∀ modifiers kind rest, ¬ IsHeading line modifiers kind rest := by
  have reading := heading?_reading (fields (· == ' ') line)
  constructor
  · intro found modifiers kind rest heading
    rw [found] at reading
    obtain ⟨next, more, -, split⟩ := heading.split
    exact reading _ _ _ _ split
  · intro no_heading
    cases found : heading? (fields (· == ' ') line) with
    | none => rfl
    | some other =>
      rw [found] at reading
      obtain ⟨others, next, more, split, -, -⟩ := reading
      exact absurd split.heading (no_heading _ _ _)

end Headings

open Text (isBlank IsWhole)

/-! ## Members -/

/-- Whether a line is for flags. -/
def isFlagsLine (line : List Char) : Bool := "flags:".toList.isPrefixOf (Text.trim line)

/-- A line that says nothing of a member: a blank one, or one that is indented by four blanks and begins
with none of the two marks. -/
def IsNoise (line : List Char) : Prop :=
  (∀ c ∈ line, isBlank c = true) ∨
    ("    ".toList <+: line ∧ ¬ "descriptor:".toList <+: Text.trim line ∧
      ¬ "flags:".toList <+: Text.trim line)

instance (line : List Char) : Decidable (IsNoise line) :=
  inferInstanceAs (Decidable (_ ∨ _))

/-- The lines of a member: its declaration, then its descriptor and then its flags, with others behind
each. -/
structure Block where
  declaration : List Char
  declared : List (List Char)
  descriptor : List Char
  described : List (List Char)
  flags : List Char
  flagged : List (List Char)

namespace Block

/-- A block as lines. -/
def lines (block : Block) : List (List Char) :=
  block.declaration :: (block.declared ++ ("    descriptor: ".toList ++ block.descriptor) ::
    (block.described ++ ("    flags: ".toList ++ block.flags) :: block.flagged))

/-- The declaration is indented by two blanks and no more, and ends in a semicolon; the other lines say
nothing. -/
structure IsProper (block : Block) : Prop where
  indented : "  ".toList <+: block.declaration ∧ ¬ "   ".toList <+: block.declaration
  ended : block.declaration.getLast? = some ';'
  declared : ∀ line ∈ block.declared, IsNoise line
  described : ∀ line ∈ block.described, IsNoise line
  flagged : ∀ line ∈ block.flagged, IsNoise line

/-- The member of a block whose descriptor is that of a method: its name is the last word of the
declaration before its parameters, without the semicolons at the end. -/
def member? (block : Block) : Option Member :=
  if (Text.trim block.descriptor).head? = some '(' then
    some ⟨memberName (Text.dropTrailing (· == ';') block.declaration),
      String.ofList (Text.trim block.descriptor), (flagsIn block.flags).eraseDups⟩
  else none

end Block

/-! ## Reports -/

/-- The parts of a report: lines before the heading, the heading with the kind that it names and the text
behind that, further lines, a line that opens the members, their blocks, a line that closes them, further
lines, and a table with its heading and rows. -/
structure Report where
  preamble : List (List Char)
  heading : List Char
  kind : String
  named : List Char
  header : List (List Char)
  opening : List Char
  blocks : List Block
  closing : List Char
  trailer : List (List Char)
  table : Option (List Char × List Row)

namespace Report

/-- The lines of the table, if there is one. -/
def tableLines (report : Report) : List (List Char) :=
  match report.table with
  | some (heading, rows) => heading :: rows.map Row.line
  | none => []

/-- The rows of the table, if there is one. -/
def rows (report : Report) : List Row := (report.table.map Prod.snd).getD []

/-- A report as lines. -/
def lines (report : Report) : List (List Char) :=
  report.preamble ++ report.heading :: (report.header ++ report.opening ::
    (report.blocks.flatMap Block.lines ++ report.closing :: (report.trailer ++ report.tableLines)))

def text (report : Report) : String := String.ofList (['\n'].intercalate report.lines)

/-- The parts of a report are what they are said to be. -/
structure IsProper (report : Report) : Prop where
  whole : ∀ line ∈ report.lines, IsWhole line
  preamble : ∀ line ∈ report.preamble, ∀ modifiers kind rest, ¬ IsHeading line modifiers kind rest
  heading : Heads report.heading report.kind report.named
  named : headedNames report.named ≠ []
  header : ∀ line ∈ report.header, line.head? ≠ some '\x7b'
  opening : report.opening.head? = some '\x7b'
  blocks : ∀ block ∈ report.blocks, block.IsProper
  closing : report.closing.head? = some '\x7d'
  trailer : ∀ line ∈ report.trailer, ¬ "InnerClasses:".toList <+: line
  table : ∀ heading rows, report.table = some (heading, rows) →
    "InnerClasses:".toList <+: heading ∧ ∀ row ∈ rows, row.IsProper

/-- The flags of the class: those of the first line for them that has any. -/
def flags (report : Report) : List String :=
  (((report.header.filter isFlagsLine).map flagsIn).find? (!·.isEmpty)).getD [] |>.eraseDups

/-- What a report says of its class. -/
def listing (report : Report) : Listing where
  name := (headedNames report.named).headD ""
  kind := report.kind
  flags := report.flags
  supertypes := (headedNames report.named).tail.filter fun word =>
    word != "extends" && word != "implements"
  members := report.blocks.filterMap Block.member?
  privateInner := (report.rows.filterMap Row.privateName?).eraseDups

end Report

end JavaStubs.Listing

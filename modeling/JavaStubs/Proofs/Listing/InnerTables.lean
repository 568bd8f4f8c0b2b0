import JavaStubs.Proofs.Listing.Sections

/-!
Tables of inner classes as they may be. Between the rows that count there may be any other lines that do not
end the table, in any order, and behind the table there may be more. The classes called private are those of
rows with that modifier, and no others.
-/
namespace JavaStubs.Listing

open Text (isBlank IsWhole)

section
variable {listing : Listing} {line : List Char} {lines rest : List (List Char)} {name : String}

/-! ## Private classes -/

/-- A line is a row that calls a class private. -/
def CallsPrivate (line : List Char) (name : String) : Prop :=
  ∃ row : InnerRow, row.IsProper ∧ line = row.line ∧ "private" ∈ row.words ∧ name = row.className

theorem callsPrivate_iff : CallsPrivate line name ↔
    ∃ modifiers, innerClass? line = some (modifiers, name) ∧ "private" ∈ modifiers := by
  constructor
  · rintro ⟨row, proper, rfl, marked, rfl⟩
    exact ⟨row.words, innerClass?_line proper, marked⟩
  · rintro ⟨modifiers, found, marked⟩
    obtain ⟨row, proper, same, rfl, named⟩ := exists_innerRow found
    exact ⟨row, proper, same, marked, named⟩

instance (line : List Char) (name : String) : Decidable (CallsPrivate line name) :=
  decidable_of_iff (∃ found ∈ innerClass? line, found.2 = name ∧ "private" ∈ found.1) <| by
    rw [callsPrivate_iff]
    constructor
    · rintro ⟨found, read, rfl, marked⟩
      exact ⟨found.1, read, marked⟩
    · rintro ⟨modifiers, read, marked⟩
      exact ⟨(modifiers, name), read, rfl, marked⟩

/-- A line adds no more than a class that it calls private. -/
theorem withInner_eq (listing : Listing) (line : List Char) : ∃ names,
    listing.withInner line = { listing with privateInner := names } ∧
      ∀ name, name ∈ names ↔ name ∈ listing.privateInner ∨ CallsPrivate line name := by
  simp only [callsPrivate_iff]
  unfold withInner
  split
  · next modifiers inner found =>
    rw [found]
    by_cases marked : modifiers.contains "private" = true
    · have counts (name : String) : (∃ modifiers', some (modifiers, inner) = some (modifiers', name) ∧
          "private" ∈ modifiers') ↔ name = inner := by
        constructor
        · rintro ⟨_, same, -⟩
          exact (Prod.mk.inj (Option.some.inj same)).2.symm
        · rintro rfl
          exact ⟨modifiers, rfl, List.contains_iff_mem.mp marked⟩
      by_cases known : listing.privateInner.contains inner = true
      · rw [marked, known, if_neg (by decide)]
        refine ⟨listing.privateInner, rfl, fun name => ?_⟩
        rw [counts, or_iff_left_of_imp]
        rintro rfl
        exact List.contains_iff_mem.mp known
      · rw [marked, eq_false_of_ne_true known, if_pos (by decide)]
        refine ⟨_, rfl, fun name => ?_⟩
        rw [counts, List.mem_append, List.mem_singleton]
    · rw [eq_false_of_ne_true marked, if_neg (by simp)]
      refine ⟨listing.privateInner, rfl, fun name => ?_⟩
      rw [or_iff_left]
      rintro ⟨_, same, also⟩
      obtain ⟨rfl, -⟩ := Prod.mk.inj (Option.some.inj same)
      exact marked (List.contains_iff_mem.mpr also)
  · next none =>
    rw [none]
    exact ⟨listing.privateInner, rfl, fun name => (or_iff_left (by simp)).symm⟩

/-- Lines add the classes that they call private, and nothing else. -/
theorem foldl_withInner (listing : Listing) (lines : List (List Char)) : ∃ names,
    lines.foldl withInner listing = { listing with privateInner := names } ∧
      ∀ name, name ∈ names ↔ name ∈ listing.privateInner ∨ ∃ line ∈ lines, CallsPrivate line name := by
  induction lines generalizing listing with
  | nil => exact ⟨listing.privateInner, rfl, fun name => by simp⟩
  | cons line lines ih =>
    obtain ⟨first, added, first_iff⟩ := withInner_eq listing line
    obtain ⟨names, all_added, names_iff⟩ := ih { listing with privateInner := first }
    refine ⟨names, by rw [List.foldl_cons, added, all_added], fun name => ?_⟩
    rw [names_iff, first_iff, List.exists_mem_cons_iff, or_assoc]

/-! ## Tables -/

/-- A line that does not end a table: it is empty, or begins with a blank. -/
def StaysInTable (line : List Char) : Prop := line.head?.all isBlank = true

instance (line : List Char) : Decidable (StaysInTable line) := inferInstanceAs (Decidable (_ = _))

/-- Further lines, the first of which ends the table, and none of which opens another. -/
def EndsTable : List (List Char) → Prop
  | [] => True
  | line :: rest => ¬ StaysInTable line ∧ ∀ other ∈ rest, ¬ "InnerClasses:".toList <+: other

theorem step_innerClasses (stays : StaysInTable line) :
    Place.innerClasses.step listing line = .ok (.innerClasses, listing.withInner line) := by
  have inside : ¬ line.head?.any (!isBlank ·) = true := by
    cases line with
    | nil => simp
    | cons c rest => simpa [StaysInTable] using stays
  rw [Place.step, if_neg inside]

theorem readFrom_table (stays : ∀ line ∈ lines, StaysInTable line) (rest : List (List Char)) :
    readFrom .innerClasses listing (lines ++ rest) =
      readFrom .innerClasses (lines.foldl withInner listing) rest := by
  induction lines generalizing listing with
  | nil => rfl
  | cons line lines ih =>
    rw [List.cons_append, readFrom_cons (step_innerClasses (stays line List.mem_cons_self)),
      ih fun other member => stays other (List.mem_cons_of_mem line member), List.foldl_cons]

theorem readFrom_after (ends : EndsTable rest) : readFrom .innerClasses listing rest = .ok listing := by
  cases rest with
  | nil => rfl
  | cons line rest =>
    obtain ⟨leaves, others⟩ := ends
    have outside : line.head?.any (!isBlank ·) = true := by
      cases line with
      | nil => exact absurd rfl leaves
      | cons c rest => simpa [StaysInTable] using leaves
    have step : Place.innerClasses.step listing line = .ok (.trailer, listing) := by
      rw [Place.step, if_pos outside]
    rw [readFrom_cons step, ← List.append_nil rest,
      readFrom_append fun other member => step_trailer (others other member)]
    rfl

end

theorem Report.IsProper.some_name {report : Report} (proper : report.IsProper) : report.listing.name ≠ "" := by
  obtain ⟨name, others, all⟩ := List.exists_cons_of_ne_nil proper.named
  have member : name ∈ headedNames report.named := all ▸ List.mem_cons_self
  obtain ⟨word, inside, rfl⟩ := List.mem_map.mp member
  have some_word : word ≠ [] := by simpa using (List.mem_filter.mp inside).2
  change (headedNames report.named).headD "" ≠ ""
  rw [all]
  exact fun none => some_word (by simpa using congrArg String.toList none)

/-! ## Reports with a table -/

/-- A report without a table, and behind it the heading of a table, its lines, and further ones. -/
structure Tabled where
  report : Report
  heading : List Char
  table : List (List Char)
  after : List (List Char)

namespace Tabled

def lines (tabled : Tabled) : List (List Char) :=
  tabled.report.lines ++ tabled.heading :: (tabled.table ++ tabled.after)

def text (tabled : Tabled) : String := String.ofList (['\n'].intercalate tabled.lines)

/-- The parts are what they are said to be. -/
structure IsProper (tabled : Tabled) : Prop where
  report : tabled.report.IsProper
  untabled : tabled.report.table = none
  whole : ∀ line ∈ tabled.heading :: (tabled.table ++ tabled.after), IsWhole line
  heading : "InnerClasses:".toList <+: tabled.heading
  table : ∀ line ∈ tabled.table, StaysInTable line
  after : EndsTable tabled.after

/-- A row of the table calls a class private. -/
def CallsPrivate (tabled : Tabled) (name : String) : Prop := ∃ line ∈ tabled.table, Listing.CallsPrivate line name

instance (tabled : Tabled) (name : String) : Decidable (tabled.CallsPrivate name) :=
  inferInstanceAs (Decidable (∃ line ∈ tabled.table, Listing.CallsPrivate line name))

/-- What a report with a table says of its class. -/
def listing (tabled : Tabled) : Listing := tabled.table.foldl withInner tabled.report.listing

theorem mem_privateInner {tabled : Tabled} (proper : tabled.IsProper) (name : String) :
    name ∈ tabled.listing.privateInner ↔ tabled.CallsPrivate name := by
  obtain ⟨names, all, names_iff⟩ := foldl_withInner tabled.report.listing tabled.table
  have none_before : tabled.report.listing.privateInner = [] := by
    simp [Report.listing, Report.rows, proper.untabled]
  rw [listing, all, names_iff, none_before]
  exact or_iff_right List.not_mem_nil

/-- But for private classes a table adds nothing. -/
theorem listing_eq (tabled : Tabled) : ∃ names,
    tabled.listing = { tabled.report.listing with privateInner := names } := by
  obtain ⟨names, all, -⟩ := foldl_withInner tabled.report.listing tabled.table
  exact ⟨names, all⟩

theorem name_listing (tabled : Tabled) : tabled.listing.name = tabled.report.listing.name := by
  obtain ⟨names, all⟩ := tabled.listing_eq
  rw [all]

theorem isInterface_listing (tabled : Tabled) :
    tabled.listing.isInterface = tabled.report.listing.isInterface := by
  obtain ⟨names, all⟩ := tabled.listing_eq
  rw [all]
  rfl

/-- A report with a table of any lines is read as what it says. -/
theorem read_text {tabled : Tabled} (proper : tabled.IsProper) : read tabled.text = .ok tabled.listing := by
  have report := proper.report
  have whole : ∀ line ∈ tabled.lines, IsWhole line := by
    intro line member
    rcases List.mem_append.mp member with member | member
    · exact report.whole line member
    · exact proper.whole line member
  have lines_read : read tabled.text = readFrom .preamble empty tabled.lines := by
    rw [read, text, String.toList_ofList]
    rcases Text.lines_joined whole with same | last
    · rw [same]
    · rw [← readFrom_empty, ← last]
  have lines_eq : tabled.lines = tabled.report.preamble ++ tabled.report.heading :: (tabled.report.header ++
      tabled.report.opening :: (tabled.report.blocks.flatMap Block.lines ++ tabled.report.closing ::
        (tabled.report.trailer ++ tabled.heading :: (tabled.table ++ tabled.after)))) := by
    simp [lines, Report.lines, Report.tableLines, proper.untabled]
  have step {listing : Listing} :
      Place.trailer.step listing tabled.heading = .ok (.innerClasses, listing) := by
    rw [Place.step, if_pos (List.isPrefixOf_iff_prefix.mpr proper.heading)]
  rw [lines_read, lines_eq, readFrom_append fun line member => step_preamble (report.preamble line member),
    readFrom_cons (step_heading report.heading report.named), readFrom_header report.header,
    readFrom_cons (step_opening report.opening), readFrom_blocks report.blocks,
    readFrom_cons (step_closing report.closing none),
    readFrom_append fun line member => step_trailer (report.trailer line member), readFrom_cons step,
    readFrom_table proper.table, readFrom_after proper.after]
  simp [listing, empty, Report.listing, Report.flags, flagsAfter_nil, Report.rows, proper.untabled]

end Tabled

end JavaStubs.Listing

import JavaStubs.Proofs.Listing.Report

/-!
What is taken from a report on a class. Each of its sections is taken line by line, and of the lines of a
member only the declaration, the descriptor and the flags are.
-/
namespace JavaStubs.Listing

open Text (isBlank)

variable {listing : Listing} {line : List Char} {lines rest : List (List Char)}

/-! ## Lines one by one -/

theorem readFrom_cons {place next : Place} {after : Listing}
    (step : place.step listing line = .ok (next, after)) (rest : List (List Char)) :
    readFrom place listing (line :: rest) = readFrom next after rest := by
  rw [readFrom, step]
  rfl

/-- Lines that change nothing are passed over. -/
theorem readFrom_append {place : Place}
    (kept : ∀ line ∈ lines, place.step listing line = .ok (place, listing)) (rest : List (List Char)) :
    readFrom place listing (lines ++ rest) = readFrom place listing rest := by
  induction lines with
  | nil => rfl
  | cons line lines ih =>
    rw [List.cons_append, readFrom_cons (kept line List.mem_cons_self),
      ih fun other member => kept other (List.mem_cons_of_mem line member)]

/-! ## The header -/

theorem step_preamble (none : ∀ modifiers kind rest, ¬ IsHeading line modifiers kind rest) :
    Place.preamble.step listing line = .ok (.preamble, listing) := by
  rw [Place.step, heading?_eq_none_iff.mpr none]

theorem step_heading {kind : String} {text : List Char} (heads : Heads line kind text)
    (named : headedNames text ≠ []) :
    Place.preamble.step listing line = .ok (.header, { listing with
      name := (headedNames text).headD ""
      kind := kind
      supertypes := (headedNames text).tail.filter fun word =>
        word != "extends" && word != "implements" }) := by
  obtain ⟨name, others, all⟩ := List.exists_cons_of_ne_nil named
  rw [Place.step, heads_iff.mp heads]
  simp only [withHeader, all]
  rfl

/-- The flags after further lines of a header. -/
def flagsAfter (flags : List String) : List (List Char) → List String
  | [] => flags
  | line :: rest =>
    flagsAfter (if isFlagsLine line && flags.isEmpty then (flagsIn line).eraseDups else flags) rest

theorem readFrom_header (unopened : ∀ line ∈ lines, line.head? ≠ some '\x7b') :
    readFrom .header listing (lines ++ rest) =
      readFrom .header { listing with flags := flagsAfter listing.flags lines } rest := by
  induction lines generalizing listing with
  | nil => rfl
  | cons line lines ih =>
    have others := fun other member => unopened other (List.mem_cons_of_mem line member)
    have closed : ¬ (line.head? == some '\x7b') = true := by simpa using unopened line List.mem_cons_self
    rw [List.cons_append, flagsAfter]
    by_cases marked : (isFlagsLine line && listing.flags.isEmpty) = true
    · have step : Place.header.step listing line =
          .ok (.header, { listing with flags := (flagsIn line).eraseDups }) := by
        exact if_pos marked
      rw [readFrom_cons step, ih others, if_pos marked]
    · have step : Place.header.step listing line = .ok (.header, listing) := by
        exact (if_neg marked).trans (by rw [if_neg closed])
      rw [readFrom_cons step, ih others, if_neg marked]

theorem eraseDups_eq_nil {words : List String} : words.eraseDups = [] ↔ words = [] := by
  cases words with
  | nil => simp
  | cons word words => simp [List.eraseDups_cons]

theorem flagsAfter_of_some {flags : List String} (some_flag : flags ≠ []) :
    flagsAfter flags lines = flags := by
  induction lines with
  | nil => rfl
  | cons line lines ih => rw [flagsAfter, if_neg (by simp [some_flag]), ih]

/-- Of the lines for flags the first one counts that has any. -/
theorem flagsAfter_nil (lines : List (List Char)) :
    flagsAfter [] lines =
      ((((lines.filter isFlagsLine).map flagsIn).find? (!·.isEmpty)).getD []).eraseDups := by
  induction lines with
  | nil => rfl
  | cons line lines ih =>
    rw [flagsAfter]
    by_cases marked : isFlagsLine line = true
    · rw [if_pos (by simp [marked]), List.filter_cons_of_pos marked, List.map_cons]
      by_cases none : flagsIn line = []
      · rw [none, List.find?_cons_of_neg (by simp)]
        simpa using ih
      · rw [flagsAfter_of_some (by simpa [eraseDups_eq_nil] using none),
          List.find?_cons_of_pos (by simp [none])]
        rfl
    · rw [if_neg (by simp [marked]), List.filter_cons_of_neg marked]
      exact ih

/-! ## Members -/

private theorem not_closing_of_indented (indented : "  ".toList <+: line) :
    ¬ (line.head? == some '\x7d') = true := by
  obtain ⟨rest, rfl⟩ := indented
  simp

theorem isDeclaration_of_isNoise (noise : IsNoise line) : isDeclaration line = false := by
  rcases noise with blank | ⟨deep, -, -⟩
  · have none : Text.dropTrailing isBlank line = [] := by
      rw [Text.dropTrailing_eq, List.rdropWhile_eq_nil_iff]
      exact blank
    rw [isDeclaration, none]
    simp
  · have three : "   ".toList.isPrefixOf line = true := by
      obtain ⟨rest, rfl⟩ := deep
      simp
    rw [isDeclaration, three]
    simp

/-- A line that says nothing changes nothing, whatever is known of the member so far. -/
theorem step_noise (noise : IsNoise line) (pending : Option Declaration) :
    (Place.members pending).step listing line = .ok (.members pending, listing) := by
  have unmarked : ¬ "descriptor:".toList.isPrefixOf (Text.trim line) = true ∧
      ¬ "flags:".toList.isPrefixOf (Text.trim line) = true := by
    rcases noise with blank | ⟨-, no_descriptor, no_flags⟩
    · rw [Text.trim_of_blank blank]
      decide
    · simpa using And.intro no_descriptor no_flags
  have open_still : ¬ (line.head? == some '\x7d') = true := by
    rcases noise with blank | ⟨deep, -, -⟩
    · cases line with
      | nil => simp
      | cons c rest =>
        have first := blank c List.mem_cons_self
        rw [List.head?_cons]
        intro same
        obtain rfl : c = '\x7d' := by simpa using same
        exact absurd first (by decide)
    · obtain ⟨rest, rfl⟩ := deep
      simp
  have undeclared : ¬ isDeclaration line = true := by simp [isDeclaration_of_isNoise noise]
  rw [Place.step, memberStep.eq_def]
  dsimp only
  rw [if_neg open_still, if_neg undeclared]
  cases pending with
  | none => rfl
  | some declaration =>
    dsimp only
    rw [if_neg unmarked.1]
    cases declaration.descriptor with
    | none => rfl
    | some descriptor => dsimp only; rw [if_neg unmarked.2]

theorem step_declaration (indented : "  ".toList <+: line ∧ ¬ "   ".toList <+: line)
    (ended : line.getLast? = some ';') (pending : Option Declaration) :
    (Place.members pending).step listing line =
      .ok (.members (some ⟨Text.dropTrailing (· == ';') (Text.trim line), none⟩), listing) := by
  have declares : isDeclaration line = true := by
    obtain ⟨front, rfl⟩ := List.getLast?_eq_some_iff.mp ended
    obtain ⟨two, not_three⟩ := indented
    rw [← List.isPrefixOf_iff_prefix] at two not_three
    rw [isDeclaration, Text.dropTrailing_of_last (by decide), two, eq_false_of_ne_true not_three]
    simp
  rw [Place.step, memberStep.eq_def]
  dsimp only
  rw [if_neg (not_closing_of_indented indented.1), if_pos declares]

private theorem trim_marked {mark text : List Char} (visible : mark.head?.all (!isBlank ·) = true)
    (ended : mark.getLast? = some ':') :
    Text.trim ("    ".toList ++ (mark ++ text)) = mark ++ Text.dropTrailing isBlank text := by
  have indent : ∀ c ∈ "    ".toList, isBlank c = true := by decide
  obtain ⟨front, rfl⟩ := List.getLast?_eq_some_iff.mp ended
  have first : ((front ++ [':']) ++ text).dropWhile isBlank = (front ++ [':']) ++ text := by
    cases front with
    | nil => exact List.dropWhile_cons_of_neg (by decide)
    | cons c front => exact List.dropWhile_cons_of_neg (by simpa using visible)
  rw [Text.trim_append_blank indent, Text.trim, first, List.append_assoc, List.append_assoc,
    List.singleton_append, List.singleton_append, Text.dropTrailing_append_of_last (by decide)]

private theorem isDeclaration_deep (text : List Char) :
    isDeclaration ("    ".toList ++ text) = false := by
  simp [isDeclaration]

theorem step_descriptor (descriptor : List Char) (declaration : Declaration) :
    (Place.members (some declaration)).step listing ("    descriptor: ".toList ++ descriptor) =
      .ok (.members (some { declaration with descriptor := some (Text.trim descriptor) }), listing) := by
  have split : "    descriptor: ".toList ++ descriptor =
      "    ".toList ++ ("descriptor:".toList ++ ' ' :: descriptor) := by simp
  have trimmed : Text.trim ("    ".toList ++ ("descriptor:".toList ++ ' ' :: descriptor)) =
      "descriptor:".toList ++ Text.dropTrailing isBlank (' ' :: descriptor) :=
    trim_marked (by decide) (by decide)
  have marked : "descriptor:".toList.isPrefixOf
      ("descriptor:".toList ++ Text.dropTrailing isBlank (' ' :: descriptor)) = true := by simp
  have value : Text.trim (("descriptor:".toList ++ Text.dropTrailing isBlank (' ' :: descriptor)).drop
      "descriptor:".length) = Text.trim descriptor := by
    rw [show "descriptor:".length = "descriptor:".toList.length from rfl, List.drop_left,
      Text.trim_dropTrailing, Text.trim_cons_blank (by decide)]
  have open_still : ¬ (("    ".toList ++ ("descriptor:".toList ++ ' ' :: descriptor)).head? ==
      some '\x7d') = true := by simp
  rw [split, Place.step, memberStep.eq_def]
  dsimp only
  rw [if_neg open_still, isDeclaration_deep, trimmed, if_neg (by simp), if_pos marked, value]

theorem step_flags (text descriptor flags : List Char) :
    (Place.members (some ⟨text, some descriptor⟩)).step listing ("    flags: ".toList ++ flags) =
      .ok (.members none, listing.withMember text descriptor ("    flags: ".toList ++ flags)) := by
  have split : "    flags: ".toList ++ flags = "    ".toList ++ ("flags:".toList ++ ' ' :: flags) := by simp
  have trimmed : Text.trim ("    ".toList ++ ("flags:".toList ++ ' ' :: flags)) =
      "flags:".toList ++ Text.dropTrailing isBlank (' ' :: flags) := trim_marked (by decide) (by decide)
  have marked : "flags:".toList.isPrefixOf
      ("flags:".toList ++ Text.dropTrailing isBlank (' ' :: flags)) = true := by simp
  have unmarked : ¬ "descriptor:".toList.isPrefixOf
      ("flags:".toList ++ Text.dropTrailing isBlank (' ' :: flags)) = true := by simp
  have open_still : ¬ (("    ".toList ++ ("flags:".toList ++ ' ' :: flags)).head? == some '\x7d') =
      true := by simp
  rw [split, Place.step, memberStep.eq_def]
  dsimp only
  rw [if_neg open_still, isDeclaration_deep, trimmed, if_neg (by simp), if_neg unmarked, if_pos marked]

/-- The blanks before a declaration are no part of the name. -/
theorem memberName_trim (ended : line.getLast? = some ';') :
    memberName (Text.dropTrailing (· == ';') (Text.trim line)) =
      memberName (Text.dropTrailing (· == ';') line) := by
  have whole : Text.dropTrailing isBlank line = line := by
    obtain ⟨front, rfl⟩ := List.getLast?_eq_some_iff.mp ended
    exact Text.dropTrailing_of_last (by decide)
  have before_parameters (text : List Char) :
      (text.dropWhile isBlank).takeWhile (· != '(') = (text.takeWhile (· != '(')).dropWhile isBlank := by
    induction text with
    | nil => rfl
    | cons c text ih =>
      by_cases blank : isBlank c = true
      · have other : (c != '(') = true := by
          rw [bne_iff_ne]
          rintro rfl
          exact absurd blank (by decide)
        rw [List.dropWhile_cons_of_pos blank, ih, List.takeWhile_cons, if_pos other,
          List.dropWhile_cons_of_pos blank]
      · rw [List.dropWhile_cons_of_neg blank, List.takeWhile_cons]
        split
        · rw [List.dropWhile_cons_of_neg blank]
        · rfl
  rw [Text.trim_eq, whole, Text.dropTrailing_dropWhile, memberName, memberName, before_parameters,
    Text.words_dropWhile]

theorem flagsIn_marked (flags : List Char) : flagsIn ("    flags: ".toList ++ flags) = flagsIn flags := by
  simp [flagsIn]

/-- The lines of a block add its member, if it is a method. -/
theorem readFrom_block {block : Block} (proper : block.IsProper) (pending : Option Declaration) :
    readFrom (.members pending) listing (block.lines ++ rest) =
      readFrom (.members none)
        { listing with members := listing.members ++ block.member?.toList } rest := by
  have noise {place : List (List Char)} (all : ∀ line ∈ place, IsNoise line)
      (pending : Option Declaration) (listing : Listing) (rest : List (List Char)) :
      readFrom (.members pending) listing (place ++ rest) = readFrom (.members pending) listing rest :=
    readFrom_append (fun line member => step_noise (all line member) pending) rest
  have split : block.lines ++ rest = block.declaration :: (block.declared ++
      ("    descriptor: ".toList ++ block.descriptor) :: (block.described ++
        ("    flags: ".toList ++ block.flags) :: (block.flagged ++ rest))) := by
    simp [Block.lines]
  have after : listing.withMember (Text.dropTrailing (· == ';') (Text.trim block.declaration))
      (Text.trim block.descriptor) ("    flags: ".toList ++ block.flags) =
        { listing with members := listing.members ++ block.member?.toList } := by
    rw [withMember, Block.member?, memberName_trim proper.ended, flagsIn_marked]
    by_cases method : (Text.trim block.descriptor).head? = some '('
    · simp [method]
    · simp [method]
  rw [split, readFrom_cons (step_declaration proper.indented proper.ended pending),
    noise proper.declared, readFrom_cons (step_descriptor _ _), noise proper.described,
    readFrom_cons (step_flags _ _ _), noise proper.flagged, after]

theorem readFrom_blocks {blocks : List Block} (proper : ∀ block ∈ blocks, block.IsProper) :
    readFrom (.members none) listing (blocks.flatMap Block.lines ++ rest) =
      readFrom (.members none)
        { listing with members := listing.members ++ blocks.filterMap Block.member? } rest := by
  induction blocks generalizing listing with
  | nil => simp
  | cons block blocks ih =>
    rw [List.flatMap_cons, List.append_assoc, readFrom_block (proper block List.mem_cons_self),
      ih fun other member => proper other (List.mem_cons_of_mem block member)]
    cases found : block.member? <;> simp [found]

/-! ## The table of inner classes -/

/-- The names of private classes after further rows. -/
def privateAfter (names : List String) : List Row → List String
  | [] => names
  | row :: rows =>
    privateAfter (match row.privateName? with
      | some name => if names.contains name then names else names ++ [name]
      | none => names) rows

theorem step_row {row : Row} (proper : row.IsProper) :
    Place.innerClasses.step listing row.line =
      .ok (.innerClasses, { listing with privateInner := privateAfter listing.privateInner [row] }) := by
  have indented : ¬ row.line.head?.any (!isBlank ·) = true := by
    obtain ⟨some_indent, blank⟩ := proper.indented
    obtain ⟨c, indent, all⟩ := List.exists_cons_of_ne_nil some_indent
    rw [Row.line, all]
    simpa using blank c (by simp [all])
  have is_private : (row.modifiers.map String.ofList).contains "private" = true ↔
      "private".toList ∈ row.modifiers := by
    rw [List.contains_iff_mem, List.mem_map]
    constructor
    · rintro ⟨word, member, same⟩
      rw [← same, String.toList_ofList]
      exact member
    · exact fun member => ⟨_, member, String.ofList_toList⟩
  rw [Place.step, if_neg indented, withInner, innerClass?_row proper]
  simp only [privateAfter, Row.privateName?]
  by_cases marked : "private".toList ∈ row.modifiers
  · rw [if_pos marked, is_private.mpr marked, Bool.true_and]
    dsimp only
    by_cases known : listing.privateInner.contains
        (Text.replaced (· == '/') '.' (String.ofList row.name)) = true
    · rw [known, if_neg (by simp), if_pos rfl]
    · rw [eq_false_of_ne_true known, if_pos (by simp), if_neg (by simp)]
  · have unmarked : ¬ (row.modifiers.map String.ofList).contains "private" = true :=
      fun found => marked (is_private.mp found)
    rw [if_neg marked, eq_false_of_ne_true unmarked]
    rfl

theorem readFrom_rows {rows : List Row} (proper : ∀ row ∈ rows, row.IsProper) :
    readFrom .innerClasses listing (rows.map Row.line) =
      .ok { listing with privateInner := privateAfter listing.privateInner rows } := by
  induction rows generalizing listing with
  | nil => rfl
  | cons row rows ih =>
    rw [List.map_cons, readFrom_cons (step_row (proper row List.mem_cons_self)),
      ih fun other member => proper other (List.mem_cons_of_mem row member)]
    rfl

/-- Each name is kept once, in the order in which the names first come. -/
theorem privateAfter_eq (names : List String) (rows : List Row) :
    privateAfter names rows =
      names ++ ((rows.filterMap Row.privateName?).filter (!names.contains ·)).eraseDups := by
  induction rows generalizing names with
  | nil => simp [privateAfter]
  | cons row rows ih =>
    rw [privateAfter, ih]
    cases found : row.privateName? with
    | none => simp [found]
    | some name =>
      rw [List.filterMap_cons_some found]
      dsimp only
      by_cases known : names.contains name = true
      · rw [if_pos known, List.filter_cons_of_neg (by simpa using known)]
      · rw [if_neg known, List.filter_cons_of_pos (by simpa using known), List.eraseDups_cons,
          List.filter_filter, List.append_assoc, List.singleton_append]
        congr 3
        refine List.filter_congr fun other _ => ?_
        by_cases same : other = name
        · simp [same]
        · simp [same]

/-! ## Whole reports -/

theorem step_empty (place : Place) : place.step listing [] = .ok (place, listing) := by
  cases place with
  | preamble => rfl
  | header => rfl
  | members pending => exact step_noise (.inl (by simp)) pending
  | trailer => rfl
  | innerClasses => rfl

/-- An empty line at the end is as good as none. -/
theorem readFrom_empty (place : Place) (listing : Listing) (lines : List (List Char)) :
    readFrom place listing (lines ++ [[]]) = readFrom place listing lines := by
  induction lines generalizing place listing with
  | nil => rw [List.nil_append, readFrom_cons (step_empty place)]
  | cons line lines ih =>
    rw [List.cons_append, readFrom, readFrom]
    cases place.step listing line with
    | error fault => rfl
    | ok next => exact ih next.1 next.2

theorem step_opening (opening : line.head? = some '\x7b') :
    Place.header.step listing line = .ok (.members none, listing) := by
  obtain ⟨rest, rfl⟩ := List.head?_eq_some_iff.mp opening
  rw [Place.step, Text.trim_cons_solid (by decide), if_neg (by simp), if_pos (by simp)]

theorem step_closing (closing : line.head? = some '\x7d') (pending : Option Declaration) :
    (Place.members pending).step listing line = .ok (.trailer, listing) := by
  rw [Place.step, memberStep.eq_def]
  dsimp only
  rw [if_pos (by simp [closing])]

theorem step_trailer (other : ¬ "InnerClasses:".toList <+: line) :
    Place.trailer.step listing line = .ok (.trailer, listing) := by
  rw [Place.step, if_neg (by rwa [List.isPrefixOf_iff_prefix])]

/-- What stands behind the members adds the names of the private classes in the table. -/
theorem readFrom_trailer {report : Report} (proper : report.IsProper) :
    readFrom .trailer listing (report.trailer ++ report.tableLines) =
      .ok { listing with privateInner := privateAfter listing.privateInner report.rows } := by
  rw [readFrom_append fun line member => step_trailer (proper.trailer line member)]
  unfold Report.tableLines Report.rows
  cases table : report.table with
  | none => rfl
  | some parts =>
    obtain ⟨heading, rows⟩ := parts
    obtain ⟨marked, rows_proper⟩ := proper.table heading rows table
    have step : Place.trailer.step listing heading = .ok (.innerClasses, listing) := by
      rw [Place.step, if_pos (List.isPrefixOf_iff_prefix.mpr marked)]
    exact (readFrom_cons step _).trans (readFrom_rows rows_proper)

/-- A report is read as what it says of its class: one member for each block with the descriptor of a
method, in their order, whatever other lines stand between. -/
theorem read_report (report : Report) (proper : report.IsProper) :
    read report.text = .ok report.listing := by
  have lines_read : read report.text = readFrom .preamble empty report.lines := by
    rw [read, Report.text, String.toList_ofList]
    rcases Text.lines_joined proper.whole with same | last
    · rw [same]
    · rw [← readFrom_empty, ← last]
  rw [lines_read, Report.lines, readFrom_append fun line member => step_preamble (proper.preamble line member),
    readFrom_cons (step_heading proper.heading proper.named), readFrom_header proper.header,
    readFrom_cons (step_opening proper.opening), readFrom_blocks proper.blocks,
    readFrom_cons (step_closing proper.closing none),
    readFrom_trailer proper, privateAfter_eq]
  simp [empty, Report.listing, Report.flags, flagsAfter_nil]

/-- A report on a nested interface with a field, a method and two rows. -/
def nested : Report where
  preamble := ["Compiled from \"A.java\"".toList]
  heading := "interface a.A$I<T> extends a.B, a.C<T>".toList
  kind := "interface"
  named := "a.A$I<T> extends a.B, a.C<T>".toList
  header := ["  flags: (0x0600) ACC_INTERFACE".toList, "   #1 = Utf8  flags: ACC_ENUM".toList]
  opening := "\x7b".toList
  blocks := [
    ⟨"  static final int N;".toList, [], "I".toList, [], "(0x0018) ACC_STATIC".toList,
      ["    ConstantValue: int 4".toList, []]⟩,
    ⟨"  abstract T pick(T[]) throws X;".toList, ["      // ;".toList], "([La/O;)La/O;".toList, [[]],
      "(0x0400) ACC_ABSTRACT".toList, ["    Exceptions:".toList, []]⟩]
  closing := "\x7d".toList
  trailer := ["NestHost: class a/A".toList]
  table := some ("InnerClasses:".toList, [
    ⟨"  ".toList, ["private".toList, "static".toList], "7".toList, "5".toList, "3".toList,
      "    ".toList, "I".toList, "a/A$I".toList, "a/A".toList⟩,
    ⟨" ".toList, [], "12".toList, "11".toList, "3".toList, " ".toList, "J".toList, "a/A$J".toList,
      "a/A".toList⟩])

theorem read_report_nested : nested.IsProper ∧ read nested.text = .ok nested.listing ∧
    nested.listing = ⟨"a.A$I", "interface", ["ACC_INTERFACE"], ["a.B", "a.C"],
      [⟨"pick", "([La/O;)La/O;", ["ACC_ABSTRACT"]⟩], ["a.A$I"]⟩ := by
  have proper : nested.IsProper := by
    refine ⟨by decide +kernel, ?_, heads_iff.mpr (by decide +kernel), by decide +kernel,
      by decide +kernel, by decide +kernel, ?_, by decide +kernel, by decide +kernel, ?_⟩
    · intro line member
      have unread : ∀ line ∈ nested.preamble, heading? (Text.fields (· == ' ') line) = none := by
        decide +kernel
      exact heading?_eq_none_iff.mp (unread line member)
    · intro block member
      have parts : ∀ block ∈ nested.blocks, ("  ".toList <+: block.declaration ∧
          ¬ "   ".toList <+: block.declaration) ∧ block.declaration.getLast? = some ';' ∧
          (∀ line ∈ block.declared, IsNoise line) ∧ (∀ line ∈ block.described, IsNoise line) ∧
          ∀ line ∈ block.flagged, IsNoise line := by decide +kernel
      obtain ⟨indented, ended, declared, described, flagged⟩ := parts block member
      exact ⟨indented, ended, declared, described, flagged⟩
    · intro heading rows table
      cases table
      refine ⟨by decide +kernel, fun row member => ?_⟩
      rcases List.mem_cons.mp member with rfl | member
      · exact ⟨by decide +kernel, by decide +kernel, by decide +kernel, by decide +kernel, by decide +kernel,
          by decide +kernel, by decide +kernel, by decide +kernel⟩
      · obtain rfl := List.mem_singleton.mp member
        exact ⟨by decide +kernel, by decide +kernel, by decide +kernel, by decide +kernel, by decide +kernel,
          by decide +kernel, by decide +kernel, by decide +kernel⟩
  exact ⟨proper, read_report nested proper, by decide +kernel⟩

/-! ## Headings without a name -/

/-- The first heading of a text names no class: outside angle brackets there are only blanks and commas behind
the kind. -/
def IsNameless (text : String) : Prop :=
  ∃ before line after kind rest, Text.lines text.toList = before ++ line :: after ∧
    (∀ other ∈ before, ∀ modifiers kind rest, ¬ IsHeading other modifiers kind rest) ∧
    Heads line kind rest ∧ ∀ c ∈ erased rest, isBlank c = true ∨ c = ','

theorem headedNames_eq_nil_iff {text : List Char} :
    headedNames text = [] ↔ ∀ c ∈ erased text, isBlank c = true ∨ c = ',' := by
  unfold headedNames
  rw [List.map_eq_nil_iff, Text.words_eq_nil_iff, List.forall_mem_map]
  refine forall₂_congr fun c _ => ?_
  by_cases comma : c = ','
  · subst comma
    exact iff_of_true (by decide) (.inr rfl)
  · rw [if_neg (by simpa using comma)]
    exact ⟨.inl, fun either => either.resolve_right comma⟩

theorem memberStep_ne_preamble (listing : Listing) (pending : Option Declaration) (line : List Char) :
    (listing.memberStep pending line).1 ≠ .preamble := by
  unfold memberStep
  dsimp only
  split
  · exact nofun
  · split
    · exact nofun
    · split
      · exact nofun
      · split
        · exact nofun
        · split
          · exact nofun
          · split <;> exact nofun

/-- Behind the preamble every line can be read. -/
theorem step_behind {place : Place} (behind : place ≠ .preamble) (listing : Listing) (line : List Char) :
    ∃ next after, place.step listing line = .ok (next, after) ∧ next ≠ .preamble := by
  cases place with
  | preamble => exact absurd rfl behind
  | header =>
    rw [Place.step]
    by_cases flags : ("flags:".toList.isPrefixOf (Text.trim line) && listing.flags.isEmpty) = true
    · rw [if_pos flags]
      exact ⟨_, _, rfl, nofun⟩
    · rw [if_neg flags]
      exact ⟨_, _, rfl, by split <;> exact nofun⟩
  | members pending => exact ⟨_, _, rfl, memberStep_ne_preamble listing pending line⟩
  | trailer => exact ⟨_, _, rfl, by split <;> exact nofun⟩
  | innerClasses =>
    rw [Place.step]
    by_cases solid : line.head?.any (!isBlank ·) = true
    · rw [if_pos solid]
      exact ⟨_, _, rfl, nofun⟩
    · rw [if_neg solid]
      exact ⟨_, _, rfl, nofun⟩

theorem readFrom_behind {place : Place} (behind : place ≠ .preamble) (listing : Listing)
    (lines : List (List Char)) : ∃ after, readFrom place listing lines = .ok after := by
  induction lines generalizing place listing with
  | nil => exact ⟨listing, rfl⟩
  | cons line lines ih =>
    obtain ⟨next, after, step, still⟩ := step_behind behind listing line
    rw [readFrom_cons step]
    exact ih still after

/-- A text cannot be read exactly if its first heading names no class. -/
theorem read_eq_error_iff {text : String} : read text = .error .namelessHeader ↔ IsNameless text := by
  unfold read IsNameless
  generalize Text.lines text.toList = lines
  induction lines with
  | nil => simp [readFrom]
  | cons line lines ih =>
    cases reading : heading? (Text.fields (· == ' ') line) with
    | none =>
      have no_heading := heading?_eq_none_iff.mp reading
      rw [readFrom_cons (step_preamble no_heading), ih]
      constructor
      · rintro ⟨before, other, after, kind, rest, rfl, none_before, heads, nameless⟩
        refine ⟨line :: before, other, after, kind, rest, rfl, ?_, heads, nameless⟩
        exact List.forall_mem_cons.mpr ⟨no_heading, none_before⟩
      · rintro ⟨before, other, after, kind, rest, split, none_before, heads, nameless⟩
        cases before with
        | nil =>
          obtain ⟨rfl, -⟩ := List.cons.inj split
          obtain ⟨modifiers, heading, -⟩ := heads
          exact absurd heading (no_heading _ _ _)
        | cons first before =>
          obtain ⟨rfl, rfl⟩ := List.cons.inj split
          exact ⟨before, other, after, kind, rest, rfl, (List.forall_mem_cons.mp none_before).2, heads,
            nameless⟩
    | some found =>
      obtain ⟨kind, rest⟩ := found
      have heads : Heads line kind rest := heads_iff.mpr reading
      by_cases nameless : headedNames rest = []
      · have refused : readFrom .preamble empty (line :: lines) = .error .namelessHeader := by
          rw [readFrom, Place.step, reading]
          dsimp only
          rw [withHeader, nameless]
          rfl
        rw [refused]
        exact iff_of_true rfl ⟨[], line, lines, kind, rest, rfl, nofun, heads,
          headedNames_eq_nil_iff.mp nameless⟩
      · rw [readFrom_cons (step_heading heads nameless)]
        have behind : Place.header ≠ .preamble := nofun
        obtain ⟨after, done⟩ := readFrom_behind behind _ lines
        rw [done]
        refine iff_of_false nofun ?_
        rintro ⟨before, other, after, kind', rest', split, none_before, heads', nameless'⟩
        cases before with
        | nil =>
          obtain ⟨rfl, -⟩ := List.cons.inj split
          have same := reading.symm.trans (heads_iff.mp heads')
          obtain ⟨rfl, rfl⟩ := Prod.mk.inj (Option.some.inj same)
          exact nameless (headedNames_eq_nil_iff.mpr nameless')
        | cons first before =>
          obtain ⟨rfl, -⟩ := List.cons.inj split
          obtain ⟨modifiers, heading, -⟩ := heads
          exact (List.forall_mem_cons.mp none_before).1 _ _ _ heading

end JavaStubs.Listing

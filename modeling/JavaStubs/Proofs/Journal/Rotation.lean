import JavaStubs.Proofs.Journal.Appending
import JavaStubs.Proofs.Json.Visible

/-!
Several journals that are written in turn. Each remembers the file that it wrote to last, whatever the
others did since; the directory that they share holds a shelf after every event that is added through
one of them.

Journals that share a directory and a size fill the files of a day one after another, in whatever order
events come to them and whatever day their clocks show: only the last file of a day has room, none was added
to when it was full, and an event is one line at the end of one file.
-/
namespace JavaStubs.Journal

/-! ## Journals that are written in turn -/

section InTurn

open FileTree (IsTree)
open JavaStubs.Path (IsName hasNul)

/-- The world that journals share, and of each journal the file that it wrote to last. -/
structure Writers where
  world : World
  current : Nat → Option Path

/-- An event that is added to one of several journals, and when. -/
structure Addition where
  writer : Nat
  now : Instant
  event : Value

namespace Writers

/-- Journals that have not yet written to any file. -/
def start (world : World) : Writers := ⟨world, fun _ => none⟩

/-- Adds an event to one of the journals. -/
def add (journals : Nat → Journal) (writers : Writers) (addition : Addition) :
    Except Fault Path × Writers :=
  let before := { writers.world with
    now := addition.now
    journalFile := writers.current addition.writer }
  let (result, after) := ((journals addition.writer).append addition.event).run before
  (result, ⟨after, Function.update writers.current addition.writer after.journalFile⟩)

theorem current_add (journals : Nat → Journal) (writers : Writers) (addition : Addition) (writer : Nat) :
    (writers.add journals addition).2.current writer =
      if writer = addition.writer then (writers.add journals addition).2.world.journalFile
      else writers.current writer :=
  Function.update_apply _ _ _ _

def addAll (journals : Nat → Journal) (writers : Writers) (additions : List Addition) : Writers :=
  additions.foldl (fun writers addition => (writers.add journals addition).2) writers

/-- The notes of an event: one if it was added. -/
def noted (result : Except Fault Path) (addition : Addition) : List Note :=
  match result, addition.event with
  | .ok _, .table fields => [⟨addition.now, fields⟩]
  | _, _ => []

/-- The notes of events that are added one after another. -/
def notes (journals : Nat → Journal) : Writers → List Addition → List Note
  | _, [] => []
  | writers, addition :: rest =>
    noted (writers.add journals addition).1 addition ++
      notes journals (writers.add journals addition).2 rest

end Writers

/-- A directory that a path leads to, in which there is nothing. -/
structure IsVacant (disk : Disk) (base : Path) (root : Location) : Prop where
  isTree : disk.tree.IsTree
  here : disk.tree.get? disk.here = some .directory
  there : disk.find .look base = .ok (.entry root .directory)
  empty : disk.tree.children root = []

/-- The directory of the journals holds a shelf, and each journal remembers a file on it. -/
structure Keep (journals : Nat → Journal) (base : Path) (root : Location) (writers : Writers)
    (shelf : Shelf) : Prop where
  isShelf : IsShelf writers.world.disk.tree root shelf
  reaches : writers.world.disk.Reaches base root
  remembers : ∀ writer, Remembers (journals writer) shelf (writers.current writer)

variable {journals : Nat → Journal} {base : Path} {root : Location} {writers : Writers} {shelf : Shelf}

theorem IsVacant.reaches {disk : Disk} (vacant : IsVacant disk base root) : disk.Reaches base root := by
  have leads : disk.LeadsInto base root := .of_find vacant.there
  refine ⟨?_, leads, ?_⟩
  · unfold Disk.start
    split
    · rfl
    · exact vacant.here
  · rw [Path.hasNul_text, List.any_eq_false]
    intro name member
    simpa using FileTree.free_of_resolve vacant.isTree leads name member

theorem IsVacant.isShelf {disk : Disk} (vacant : IsVacant disk base root) :
    IsShelf disk.tree root .empty := by
  have none_there (day : String) : disk.tree.get? (day :: root) = none :=
    FileTree.vacant_of_children vacant.empty day
  have none_below (day name : String) : disk.tree.get? (name :: day :: root) = none :=
    vacant.isTree.vacant_below (by simp [none_there]) name
  exact ⟨vacant.isTree, vacant.reaches.isDirectory vacant.isTree, none_there,
    fun day number => by simp [none_below], fun day name _ => none_below day name⟩

/-- In the beginning the shelf is empty. -/
theorem Keep.start {world : World} (vacant : IsVacant world.disk base root) :
    Keep journals base root (.start world) .empty :=
  ⟨vacant.isShelf, vacant.reaches, fun _ => nofun⟩

/-- What one event that is added leaves. -/
theorem Keep.add (keep : Keep journals base root writers shelf)
    (based : ∀ writer, (journals writer).directory = base) (addition : Addition) :
    ∃ shelf', Keep journals base root (writers.add journals addition).2 shelf' ∧
      Change (journals addition.writer) root addition.now addition.event writers.world.disk shelf
        (writers.add journals addition).1 (writers.add journals addition).2.world.disk shelf' := by
  let before := { writers.world with
    now := addition.now
    journalFile := writers.current addition.writer }
  have reaches : before.disk.Reaches (journals addition.writer).directory root := by
    rw [based]
    exact keep.reaches
  have appended : Ends ((journals addition.writer).append addition.event) before _ :=
    append_ends keep.isShelf reaches (keep.remembers addition.writer)
  obtain ⟨shelf', is, reached, remembers, change⟩ := appended
  refine ⟨shelf', ⟨is, ?_, fun writer => ?_⟩, change⟩
  · rw [based] at reached
    exact reached
  · rw [Writers.current_add]
    split
    · next same =>
      rw [same]
      exact remembers
    · exact (keep.remembers writer).grow change.grows

/-- What holds in the beginning, and of what every event leaves, holds of what all leave. -/
theorem Keep.addAll (additions : List Addition) (done : List Note)
    (inv : List Note → Writers → Shelf → Prop) (keep : Keep journals base root writers shelf)
    (based : ∀ writer, (journals writer).directory = base) (holds : inv done writers shelf)
    (step : ∀ addition ∈ additions, ∀ done writers shelf shelf', Keep journals base root writers shelf →
      inv done writers shelf →
      Change (journals addition.writer) root addition.now addition.event writers.world.disk shelf
        (writers.add journals addition).1 (writers.add journals addition).2.world.disk shelf' →
      inv (done ++ Writers.noted (writers.add journals addition).1 addition)
        (writers.add journals addition).2 shelf') :
    ∃ shelf', Keep journals base root (writers.addAll journals additions) shelf' ∧
      inv (done ++ writers.notes journals additions) (writers.addAll journals additions) shelf' := by
  induction additions generalizing writers shelf done with
  | nil =>
    rw [Writers.notes, List.append_nil]
    exact ⟨shelf, keep, holds⟩
  | cons addition rest ih =>
    obtain ⟨shelf', kept, change⟩ := keep.add based addition
    rw [Writers.notes, ← List.append_assoc]
    exact ih _ kept (step addition List.mem_cons_self done writers shelf shelf' keep holds change)
      fun other member => step other (List.mem_cons_of_mem addition member)

/-! ### An empty directory and events of two journals -/

/-- A world with an empty directory. -/
def bare : World :=
  .start ⟨FileTree.empty.put ["log"] .directory, [], [], [], 0o022⟩ []
    (.ofText "2024-01-02T03:04:05+00:00") none

theorem isVacant_bare : IsVacant bare.disk ⟨.root, ["log"]⟩ ["log"] := by
  have empty : FileTree.empty.IsTree := fun name directory there => absurd rfl there
  have named : IsName "log" := ⟨by decide, by decide, by decide, by decide⟩
  refine ⟨empty.put rfl named (by decide) (.inl rfl), rfl, by decide +kernel, by decide +kernel⟩

/-- An event with a note in any characters. -/
def remarked (remark : String) : Value :=
  .table [("operation", .text "archive"), ("interface", .text "I"), ("outcome", .text "ok"),
    ("remark", .text remark)]

/-- Events of two journals; the clock goes back in between. -/
def remarks : List Addition :=
  [⟨0, .ofText "2024-01-02T03:04:05+00:00", remarked "a\u2028\"\n"⟩,
    ⟨1, .ofText "2024-01-01T23:00:00+00:00", remarked ""⟩]

end InTurn

/-! ## Files of a day -/

/-- One line: a text without a line feed, and a line feed behind it. -/
def IsLine (line : String) : Prop := ∃ text, line = text ++ "\n" ∧ '\n' ∉ text.toList

theorem Note.isLine (note : Note) : IsLine note.line := by
  refine ⟨_, rfl, fun member => ?_⟩
  have visible := Json.visible_writeSorted _ _ member
  exact absurd visible (by decide)

/-- In the directory of a day there are a number of files, numbered from zero. Each is of lines, and
without the last one not full; all but the last file are full. -/
structure IsRotated (maxBytes : Int) (tree : FileTree) (day : Location) (count : Nat) : Prop where
  names : ∀ name, tree.get? (name :: day) ≠ none ↔ ∃ number < count, name = fileName number
  files : ∀ number < count, ∃ lines last,
    tree.get? (fileName number :: day) = some (.file (.raw (bytesOf (lines ++ [last])))) ∧
      (∀ line ∈ lines ++ [last], IsLine line) ∧ ((bytesOf lines).size : Int) < maxBytes ∧
      (number + 1 < count → maxBytes ≤ (bytesOf (lines ++ [last])).size)

/-- In a directory there are only directories of days. -/
def IsOrderly (maxBytes : Int) (tree : FileTree) (root : Location) : Prop :=
  ∀ day, tree.get? (day :: root) ≠ none → tree.get? (day :: root) = some .directory ∧
    ∃ count, IsRotated maxBytes tree (day :: root) count

/-- Outside of a file all is as it was, but for a new directory. -/
def SameFiles (changed : Location → Prop) (before after : FileTree) : Prop :=
  ∀ location, ¬ changed location → after.get? location = before.get? location ∨
    (before.get? location = none ∧ after.get? location = some .directory)

/-- There is one more line at the end of the file that a path names, which was not there before or was
not full. -/
def AddsLine (maxBytes : Int) (base : Path) (root : Location) (path : Path) (before after : FileTree) :
    Prop :=
  ∃ day number line, path = pathOf base day number ∧ IsLine line ∧
    ((before.get? (fileName number :: day :: root) = none ∧
        after.get? (fileName number :: day :: root) = some (.file (.raw line.toUTF8))) ∨
      ∃ bytes, before.get? (fileName number :: day :: root) = some (.file (.raw bytes)) ∧
        (bytes.size : Int) < maxBytes ∧
        after.get? (fileName number :: day :: root) = some (.file (.raw (bytes ++ line.toUTF8)))) ∧
    SameFiles (· = fileName number :: day :: root) before after

/-- What an event does to the files: one line if it was added, nothing if it was refused. -/
def Records (maxBytes : Int) (base : Path) (root : Location) :
    Except Fault Path → FileTree → FileTree → Prop
  | .ok path, before, after => AddsLine maxBytes base root path before after
  | .error _, before, after => SameFiles (fun _ => False) before after

/-! ## The shelf -/

/-- Each file without its last note is not full, and all but the last of a day are. -/
def Filled (maxBytes : Int) (shelf : Shelf) : Prop :=
  ∀ day number notes, (shelf.files day)[number]? = some notes →
    (∃ earlier last, notes = earlier ++ [last] ∧ ((notesBytes earlier).size : Int) < maxBytes) ∧
      (number + 1 < (shelf.files day).length → maxBytes ≤ (notesBytes notes).size)

variable {maxBytes : Int} {base : Path} {root : Location} {shelf shelf' : Shelf} {before after : Disk}
  {now : Instant} {event : Value} {r : Except Fault Path} {writers : Writers}

/-- A note goes into a file that was not full, behind files that are. -/
theorem Filled.added {day : String} {number : Nat} {note : Note} (filled : Filled maxBytes shelf)
    (aims : Aims ⟨base, maxBytes⟩ shelf day number)
    (small : ((notesBytes ((shelf.files day)[number]?.getD [])).size : Int) < maxBytes) :
    Filled maxBytes (shelf.added day number note) := by
  intro other another notes found
  rw [Shelf.files_added] at found ⊢
  by_cases same : other = day
  · subst same
    rw [if_pos rfl, getElem?_addTo aims.within] at found
    rw [if_pos rfl, length_addTo aims.within]
    by_cases here : another = number
    · subst here
      rw [if_pos rfl] at found
      obtain rfl := Option.some.inj found
      refine ⟨⟨_, note, rfl, small⟩, fun more => ?_⟩
      -- a file that is not the last was full before, and is no smaller now
      have below : another < (shelf.files other).length := by omega
      have old := (filled other another _ (List.getElem?_eq_getElem below)).2 (by omega)
      rw [List.getElem?_eq_getElem below, Option.getD_some] at small
      omega
    · rw [if_neg here] at found
      refine ⟨(filled other another notes found).1, fun more => ?_⟩
      have below := (List.getElem?_eq_some_iff.mp found).1
      by_cases before : another < number
      · have full := aims.full another before
        rw [Shelf.size, found, Option.getD_some] at full
        exact full
      · exact (filled other another notes found).2 (by omega)
  · rw [if_neg same] at found ⊢
    exact filled other another notes found

theorem Filled.change (filled : Filled maxBytes shelf) (positive : 0 < maxBytes)
    (change : Change ⟨base, maxBytes⟩ root now event before shelf r after shelf') :
    Filled maxBytes shelf' := by
  cases change with
  | nothing fault => exact filled
  | opened opens =>
    intro day number notes found
    rw [Shelf.files_opened] at found ⊢
    exact filled day number notes found
  | made _ _ _ aims last =>
    refine filled.added aims ?_
    rw [List.getElem?_eq_none_iff.mpr (by omega)]
    exact positive
  | added _ _ _ aims _ space => exact filled.added aims space

/-! ## The directory -/

theorem isRotated (is : IsShelf before.tree root shelf) (filled : Filled maxBytes shelf) (day : String) :
    IsRotated maxBytes before.tree (day :: root) (shelf.files day).length := by
  refine ⟨is.held_iff day, fun number below => ?_⟩
  obtain ⟨⟨earlier, last, notes, small⟩, full⟩ :=
    filled day number _ (List.getElem?_eq_getElem below)
  rw [notes] at full
  rw [is.file day number, List.getElem?_eq_getElem below, notes]
  refine ⟨earlier.map Note.line, last.line, ?_, fun line member => ?_, small, fun more => ?_⟩
  · simp [notesBytes]
  · rw [← List.map_singleton, ← List.map_append] at member
    obtain ⟨note, -, rfl⟩ := List.mem_map.mp member
    exact note.isLine
  · simpa [notesBytes] using full more

theorem isOrderly (is : IsShelf before.tree root shelf) (filled : Filled maxBytes shelf) :
    IsOrderly maxBytes before.tree root := by
  intro day held
  exact ⟨is.day_directory held, _, isRotated is filled day⟩

theorem Opens.sameFiles {day : String} (opens : Opens base root day before after) :
    SameFiles (fun _ => False) before.tree after.tree := by
  intro location _
  obtain ⟨-, ⟨-, rfl⟩ | ⟨vacant, rfl⟩⟩ := opens
  · exact .inl rfl
  · by_cases same : location = day :: root
    · subst same
      exact .inr ⟨vacant, Disk.get?_withNew_self⟩
    · exact .inl (Disk.withNew_sameBut _ _ location same).1

/-- What becomes of the files when one of them is written after a day was opened. -/
theorem SameFiles.write {tree middle after : FileTree} {location : Location}
    (opened : SameFiles (fun _ => False) tree middle)
    (written : ∀ other, other ≠ location → after.get? other = middle.get? other) :
    SameFiles (· = location) tree after := by
  intro other different
  rw [written other different]
  exact opened other not_false

/-- Below a directory that was opened there is what was there before. -/
theorem Opens.get?_file {day : String} {number : Nat} (opens : Opens base root day before after) :
    after.tree.get? (fileName number :: day :: root) = before.tree.get? (fileName number :: day :: root) := by
  obtain ⟨-, ⟨-, rfl⟩ | ⟨vacant, rfl⟩⟩ := opens
  · rfl
  · exact (Disk.withNew_sameBut _ _ _ (Ne.symm (location_ne (by simp)))).1

/-- An event is a line at the end of one file, and if it is refused no file is any different. -/
theorem Change.records
    (change : Change ⟨base, maxBytes⟩ root now event before shelf r after shelf') :
    Records maxBytes base root r before.tree after.tree := by
  cases change with
  | nothing fault => exact fun location _ => .inl rfl
  | opened opens => exact opens.sameFiles
  | @made fields middle number checked opens fits aims last vacant =>
    refine ⟨now.dayName, number, _, rfl, Note.isLine ⟨now, fields⟩, .inl ⟨?_, ?_⟩,
      opens.sameFiles.write fun other different => (Disk.withNew_sameBut _ _ other different).1⟩
    · rw [← opens.get?_file, vacant]
    · rw [Disk.get?_withNew_self, notesBytes, List.map_singleton, bytesOf_singleton]
  | @added fields middle number notes checked opens fits aims file space there =>
    refine ⟨now.dayName, number, _, rfl, Note.isLine ⟨now, fields⟩,
      .inr ⟨notesBytes notes, ?_, ?_, ?_⟩,
      opens.sameFiles.write fun other different => (Disk.withEntry_sameBut _ other different).1⟩
    · rw [← opens.get?_file, there]
    · rwa [Shelf.size, file, Option.getD_some] at space
    · rw [← notesBytes_concat, Disk.get?_withEntry_self]

/-- Journals that share a directory, which was empty, and a size keep it in order, and each event that
one of them adds is one line more at the end of one file. -/
theorem addAll_rotates {world : World} (positive : 0 < maxBytes) (vacant : IsVacant world.disk base root)
    (additions : List Addition) (addition : Addition) :
    let journals : Nat → Journal := fun _ => ⟨base, maxBytes⟩
    let writers := (Writers.start world).addAll journals additions
    IsOrderly maxBytes writers.world.disk.tree root ∧
      Records maxBytes base root (writers.add journals addition).1 writers.world.disk.tree
        (writers.add journals addition).2.world.disk.tree := by
  intro journals writers
  have empty : Filled maxBytes .empty := fun day number notes found => by
    simp [Shelf.files, Shelf.empty] at found
  have start : Keep journals base root (Writers.start world) .empty := .start vacant
  obtain ⟨shelf, keep, filled⟩ := start.addAll additions [] (fun _ _ shelf => Filled maxBytes shelf)
    (fun _ => rfl) empty fun _ _ _ _ _ _ _ filled change => filled.change positive change
  obtain ⟨shelf', -, change⟩ := keep.add (fun _ => rfl) addition
  exact ⟨isOrderly keep.isShelf filled, change.records⟩

theorem addAll_rotates_bare : (0 : Int) < 100 ∧ IsVacant bare.disk ⟨.root, ["log"]⟩ ["log"] ∧
    let journals : Nat → Journal := fun _ => ⟨⟨.root, ["log"]⟩, 100⟩
    let writers := (Writers.start bare).addAll journals remarks
    let last : Addition := ⟨1, .ofText "2024-01-03T00:00:00+00:00", remarked ""⟩
    (writers.add journals last).1.toOption = some (.ofText "/log/20240103/implementor_00.jsonl") ∧
      IsOrderly 100 writers.world.disk.tree ["log"] ∧
        Records 100 ⟨.root, ["log"]⟩ ["log"] (writers.add journals last).1 writers.world.disk.tree
          (writers.add journals last).2.world.disk.tree :=
  ⟨by decide, isVacant_bare, by decide +kernel, addAll_rotates (by decide) isVacant_bare remarks _⟩

end JavaStubs.Journal

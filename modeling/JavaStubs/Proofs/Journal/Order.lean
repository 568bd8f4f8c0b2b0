import JavaStubs.Proofs.Journal.Accepting
import JavaStubs.Proofs.Journal.Rotation

/-!
The order in which journals give events. An event goes behind all others of its day, and is read by the
name of its day and then by that of its file. So events are given in the order in which they were added
as long as the clock never goes back to an earlier day, years have four digits, and no day has more files
than there are numbers of two digits.
-/
namespace JavaStubs.Journal

variable {base : Path} {root : Location} {shelf shelf' : Shelf} {before after : Disk} {maxBytes : Int}
  {notes : List Note}

/-! ## The order of reading -/

/-- Files are read in the order of their numbers as long as these have two digits. -/
theorem readingOrder_of_few {count : Nat} (few : count ≤ 100) : readingOrder count = List.range count := by
  have rising : (List.range count).Pairwise fun a b => a < b := List.pairwise_lt_range
  refine List.mergeSort_of_pairwise ((List.Pairwise.and_mem.mp rising).imp fun ⟨_, member, less⟩ => ?_)
  have small := List.mem_range.mp member
  exact decide_eq_true (fileName_lt less (by omega)).le

/-- With more files, the one with the number 100 is read before that with the number 11. -/
theorem readingOrder_of_many {count : Nat} (many : 100 < count) :
    readingOrder count ≠ List.range count := by
  intro same
  have sorted := pairwise_readingOrder count
  rw [same, List.pairwise_iff_getElem] at sorted
  have ordered := sorted 11 100 (by simp; omega) (by simpa using many) (by decide)
  simp only [List.getElem_range] at ordered
  exact absurd fileName_hundred (not_lt.mpr ordered)

theorem dayInReading_of_few {day : String} (few : (shelf.files day).length ≤ 100) :
    dayInReading shelf day = (shelf.files day).flatten := by
  rw [dayInReading, readingOrder_of_few few, flatMap_getElem?_range]

/-! ## Sorting by names -/

/-- What comes first in a list is put first. -/
theorem filter_append_filter_not {α : Type} {p : α → Bool} {xs : List α}
    (first : xs.Pairwise fun a b => p b = true → p a = true) :
    xs.filter p ++ xs.filter (fun x => !p x) = xs := by
  induction xs with
  | nil => rfl
  | cons x xs ih =>
    obtain ⟨here, first⟩ := List.pairwise_cons.mp first
    by_cases holds : p x = true
    · simp [holds, ih first]
    · have none_behind : ∀ y ∈ xs, ¬ p y = true := fun y member fine => holds (here y member fine)
      rw [List.filter_cons_of_neg holds, List.filter_eq_nil_iff.mpr none_behind, List.nil_append,
        List.filter_eq_self]
      simpa [holds] using none_behind

/-- A list that is in the order of names is put together from what belongs to each name. -/
theorem flatMap_filter_name {α : Type} {name : α → String} {names : List String} {xs : List α}
    (rising : names.Pairwise (· < ·)) (ordered : xs.Pairwise fun a b => name a ≤ name b)
    (named : ∀ x ∈ xs, name x ∈ names) : (names.flatMap fun n => xs.filter (name · == n)) = xs := by
  induction names generalizing xs with
  | nil => exact (List.eq_nil_iff_forall_not_mem.mpr fun x member => by simpa using named x member).symm
  | cons n names ih =>
    obtain ⟨least, rising⟩ := List.pairwise_cons.mp rising
    have bound : ∀ x ∈ xs, n ≤ name x := fun x member => by
      rcases List.mem_cons.mp (named x member) with same | later
      · exact same.ge
      · exact (least _ later).le
    have first : xs.Pairwise fun a b => (name b == n) = true → (name a == n) = true :=
      (List.Pairwise.and_mem.mp ordered).imp fun ⟨member, _, less⟩ same => by
        rw [beq_iff_eq] at same ⊢
        exact le_antisymm (less.trans same.le) (bound _ member)
    have others : ∀ m ∈ names, (xs.filter (name · == m)) =
        (xs.filter fun x => !(name x == n)).filter (name · == m) := fun m member => by
      rw [List.filter_filter]
      refine List.filter_congr fun x _ => ?_
      by_cases same : name x = m
      · simp [same, (least m member).ne']
      · simp [same]
    rw [List.flatMap_cons, List.flatMap_congr others, ih rising (ordered.filter _) fun x member => ?_]
    · exact filter_append_filter_not first
    · obtain ⟨inside, other⟩ := List.mem_filter.mp member
      exact (List.mem_cons.mp (named x inside)).resolve_left (by simpa using other)

/-! ## The order of adding -/

/-- Each day holds its notes in their order, all but its last file are full, and all can be read. -/
structure IsOrdered (base : Path) (root : Location) (maxBytes : Int) (disk : Disk) (shelf : Shelf)
    (notes : List Note) : Prop where
  legible : IsLegible base root disk shelf
  filled : Filled maxBytes shelf
  days : ∀ day, (shelf.files day).flatten = notes.filter (·.now.dayName == day)

/-- A file that is not full is the last one of its day. -/
theorem Filled.last {day : String} {number : Nat} {file : List Note} (filled : Filled maxBytes shelf)
    (there : (shelf.files day)[number]? = some file)
    (small : (shelf.size day number : Int) < maxBytes) : (shelf.files day).length ≤ number + 1 := by
  rw [Shelf.size, there, Option.getD_some] at small
  have full := (filled day number file there).2
  omega

theorem flatten_added {number : Nat} {note : Note}
    (days : ∀ day, (shelf.files day).flatten = notes.filter (·.now.dayName == day))
    (last : (shelf.files note.now.dayName).length ≤ number + 1) (day : String) :
    ((shelf.added note.now.dayName number note).files day).flatten =
      (notes ++ [note]).filter (·.now.dayName == day) := by
  rw [Shelf.files_added, List.filter_append]
  by_cases same : day = note.now.dayName
  · subst same
    rw [if_pos rfl, flatten_addTo_last last, days, List.filter_cons_of_pos (by simp), List.filter_nil]
  · rw [if_neg same, days, List.filter_cons_of_neg (by simpa using Ne.symm same), List.filter_nil,
      List.append_nil]

theorem IsOrdered.change {addition : Addition} {r : Except Fault Path} (positive : 0 < maxBytes)
    (is : IsShelf before.tree root shelf) (ordered : IsOrdered base root maxBytes before shelf notes)
    (change : Change ⟨base, maxBytes⟩ root addition.now addition.event before shelf r after shelf') :
    IsOrdered base root maxBytes after shelf' (notes ++ Writers.noted r addition) := by
  refine ⟨ordered.legible.change is change, ordered.filled.change positive change, ?_⟩
  cases change with
  | nothing fault => simpa [Writers.noted] using ordered.days
  | opened opens => simpa [Writers.noted] using ordered.days
  | @made fields middle number checked opens fits aims last vacant =>
    rw [noted_of_checked checked rfl]
    exact @flatten_added _ _ _ ⟨addition.now, fields⟩ ordered.days (last.ge.trans (Nat.le_succ _))
  | @added fields middle number old checked opens fits aims file space there =>
    rw [noted_of_checked checked rfl]
    exact @flatten_added _ _ _ ⟨addition.now, fields⟩ ordered.days (ordered.filled.last file space)

/-- What is kept is in the order in which it was added. -/
theorem notes_sublist (journals : Nat → Journal) (writers : Writers) (additions : List Addition) :
    ((writers.notes journals additions).map Note.now).Sublist (additions.map Addition.now) := by
  induction additions generalizing writers with
  | nil => exact .slnil
  | cons addition rest ih =>
    rw [Writers.notes, List.map_append, List.map_cons]
    have one : ((Writers.noted (writers.add journals addition).1 addition).map Note.now).Sublist
        [addition.now] := by
      unfold Writers.noted
      split
      · exact .refl _
      · exact List.nil_sublist _
    exact one.append (ih _)

/-- A note is of one of the events that were added. -/
theorem exists_of_mem_notes {journals : Nat → Journal} {writers : Writers} {additions : List Addition}
    {note : Note} (member : note ∈ writers.notes journals additions) :
    ∃ addition ∈ additions, addition.now = note.now ∧ addition.event = .table note.fields := by
  induction additions generalizing writers with
  | nil => cases member
  | cons addition rest ih =>
    rw [Writers.notes] at member
    rcases List.mem_append.mp member with member | member
    · refine ⟨addition, List.mem_cons_self, ?_⟩
      unfold Writers.noted at member
      split at member
      · next fields event =>
        rw [List.mem_singleton.mp member]
        exact ⟨rfl, event⟩
      · cases member
    · obtain ⟨other, inside, same⟩ := ih member
      exact ⟨other, List.mem_cons_of_mem addition inside, same⟩

/-- The clock never goes back to an earlier day. -/
def NeverBack (additions : List Addition) : Prop :=
  additions.Pairwise fun earlier later => ¬ later.now.day.IsBefore earlier.now.day

theorem NeverBack.sorted {additions : List Addition} (never_back : NeverBack additions)
    (dated : ∀ addition ∈ additions, addition.now.day.IsDated) (journals : Nat → Journal)
    (writers : Writers) : (writers.notes journals additions).Pairwise fun earlier later =>
      earlier.now.dayName ≤ later.now.dayName := by
  have days : (additions.map Addition.now).Pairwise fun earlier later =>
      earlier.dayName ≤ later.dayName := by
    refine List.pairwise_map.mpr ((List.Pairwise.and_mem.mp never_back).imp ?_)
    rintro earlier later ⟨member, later_member, not_back⟩
    rcases Day.eq_or_isBefore not_back with same | before
    · rw [Instant.dayName, Instant.dayName, same]
    · exact (Instant.dayName_lt before (dated _ member) (dated _ later_member)).le
  have kept := days.sublist (notes_sublist journals writers additions)
  rwa [List.pairwise_map] at kept

/-! ## The order of both -/

theorem IsOrdered.mem_namesIn {disk : Disk} {note : Note} (is : IsShelf disk.tree root shelf)
    (ordered : IsOrdered base root maxBytes disk shelf notes) (member : note ∈ notes) :
    note.now.dayName ∈ namesIn disk.tree root := by
  have inside : note ∈ (shelf.files note.now.dayName).flatten := by
    rw [ordered.days]
    exact List.mem_filter.mpr ⟨member, by simp⟩
  rw [namesIn, (List.mergeSort_perm _ _).mem_iff, FileTree.mem_children, is.day]
  cases files : shelf note.now.dayName with
  | none => simp [Shelf.files, files] at inside
  | some files => simp

/-- Day by day, there are the notes in the order of their days. -/
theorem IsOrdered.flatMap_days {disk : Disk} (is : IsShelf disk.tree root shelf)
    (ordered : IsOrdered base root maxBytes disk shelf notes)
    (sorted : notes.Pairwise fun earlier later => earlier.now.dayName ≤ later.now.dayName) :
    ((namesIn disk.tree root).flatMap fun day => (shelf.files day).flatten) = notes := by
  have distinct : (namesIn disk.tree root).Nodup :=
    (List.mergeSort_perm _ _).nodup_iff.mpr ordered.legible.days
  have rising : (namesIn disk.tree root).Pairwise (· < ·) :=
    ((pairwise_namesIn disk.tree root).and distinct).imp fun ⟨less, other⟩ => lt_of_le_of_ne less other
  rw [List.flatMap_congr fun day _ => ordered.days day]
  exact flatMap_filter_name rising sorted fun note => ordered.mem_namesIn is

theorem IsOrdered.inReading_eq {disk : Disk} (is : IsShelf disk.tree root shelf)
    (ordered : IsOrdered base root maxBytes disk shelf notes)
    (few : ∀ day, (disk.tree.children (day :: root)).length ≤ 100)
    (sorted : notes.Pairwise fun earlier later => earlier.now.dayName ≤ later.now.dayName) :
    inReading disk.tree root shelf = notes := by
  have count (day : String) : (shelf.files day).length ≤ 100 := by
    have same := congrArg List.length (namesIn_day is ordered.legible day)
    rw [namesIn, List.length_mergeSort, List.length_map, (readingOrder_perm _).length_eq,
      List.length_range] at same
    rw [← same]
    exact few day
  rw [inReading, List.flatMap_congr fun day _ => dayInReading_of_few (count day)]
  exact ordered.flatMap_days is sorted

/-! ## A file for every line -/

theorem size_line_pos (note : Note) : 0 < note.line.toUTF8.size := by
  have last : note.line.toUTF8 = (Json.writeSorted (Event.stamped note.now note.fields)).toUTF8 ++
      "\n".toUTF8 := String.toByteArray_append
  rw [last, ByteArray.size_append]
  exact Nat.lt_add_left _ (by decide)

/-- If one byte fills a file, no file has more than one line. -/
theorem Filled.single {day : String} {file : List Note} (filled : Filled 1 shelf)
    (member : file ∈ shelf.files day) : ∃ note, file = [note] := by
  obtain ⟨number, below, rfl⟩ := List.getElem_of_mem member
  obtain ⟨⟨earlier, last, whole, small⟩, -⟩ := filled day number _ (List.getElem?_eq_getElem below)
  rcases List.eq_nil_or_concat' earlier with rfl | ⟨front, note, rfl⟩
  · exact ⟨last, whole⟩
  · have filled := size_line_pos note
    rw [notesBytes_concat, ByteArray.size_append] at small
    omega

theorem eq_map_singleton {α : Type} {lists : List (List α)} (single : ∀ list ∈ lists, ∃ x, list = [x]) :
    lists = lists.flatten.map fun x => [x] := by
  induction lists with
  | nil => rfl
  | cons list lists ih =>
    obtain ⟨x, rfl⟩ := single list List.mem_cons_self
    rw [List.flatten_cons, List.map_append, ← ih fun other member =>
      single other (List.mem_cons_of_mem _ member)]
    rfl

/-- When each line has a file of its own, and all are of one day, they are read by the numbers of the
files. -/
theorem IsOrdered.inReading_single {disk : Disk} {day : String} (is : IsShelf disk.tree root shelf)
    (ordered : IsOrdered base root 1 disk shelf notes) (some_notes : notes ≠ [])
    (one_day : ∀ note ∈ notes, note.now.dayName = day) :
    inReading disk.tree root shelf = (readingOrder notes.length).filterMap (notes[·]?) := by
  have all : (shelf.files day).flatten = notes := by
    rw [ordered.days, List.filter_eq_self]
    exact fun note member => by simpa using one_day note member
  have files : shelf.files day = notes.map fun note => [note] := by
    rw [← all]
    exact eq_map_singleton fun file => ordered.filled.single
  have of_day : dayInReading shelf day = (readingOrder notes.length).filterMap (notes[·]?) := by
    rw [dayInReading, files, List.length_map, List.filterMap_eq_flatMap_toList]
    refine List.flatMap_congr fun number _ => ?_
    rw [List.getElem?_map]
    cases notes[number]? <;> rfl
  have sorted : notes.Pairwise fun earlier later => earlier.now.dayName ≤ later.now.dayName :=
    List.pairwise_of_forall_mem_list fun earlier member later later_member =>
      ((one_day earlier member).trans (one_day later later_member).symm).le
  have perm : (inReading disk.tree root shelf).Perm notes := by
    have days := List.Perm.flatMap_left (namesIn disk.tree root) fun day _ => dayInReading_perm shelf day
    rwa [ordered.flatMap_days is sorted] at days
  have member : day ∈ namesIn disk.tree root := by
    obtain ⟨note, inside⟩ := List.exists_mem_of_ne_nil notes some_notes
    exact one_day note inside ▸ ordered.mem_namesIn is inside
  have part : (dayInReading shelf day).Sublist (inReading disk.tree root shelf) :=
    List.sublist_flatten_of_mem (List.mem_map_of_mem member)
  rw [← of_day]
  refine (part.eq_of_length ?_).symm
  rw [(dayInReading_perm shelf day).length_eq, all, perm.length_eq]

/-! ## Events of journals -/

/-- What a journal gives when events were added, and the shelf that it finds then. -/
theorem events_of_ordered {world : World} (positive : 0 < maxBytes)
    (vacant : IsVacant world.disk base root) (opened : IsOpenTo .read world.disk root)
    (additions : List Addition) :
    let journals : Nat → Journal := fun _ => ⟨base, maxBytes⟩
    let disk := ((Writers.start world).addAll journals additions).world.disk
    ∃ shelf, IsShelf disk.tree root shelf ∧
      IsOrdered base root maxBytes disk shelf ((Writers.start world).notes journals additions) ∧
      (Journal.mk base maxBytes).events.run disk =
        (.ok (valuesOf ((inReading disk.tree root shelf).map fun note => note.line.toList)), disk) := by
  intro journals disk
  have start : Keep journals base root (Writers.start world) .empty := .start vacant
  have empty : IsOrdered base root maxBytes world.disk .empty [] :=
    ⟨(Recorded.start vacant opened).legible,
      fun _ _ _ found => by simp at found, fun _ => rfl⟩
  obtain ⟨shelf, keep, ordered⟩ := start.addAll additions []
    (fun done writers shelf => IsOrdered base root maxBytes writers.world.disk shelf done) (fun _ => rfl)
    empty fun addition member done writers shelf shelf' keep ordered change =>
      ordered.change positive keep.isShelf change
  have ends : Ends (Journal.mk base maxBytes).events disk _ :=
    events_read keep.isShelf keep.reaches ordered.legible
  obtain ⟨r, after, run⟩ := Ends.exists_run (Journal.mk base maxBytes).events disk
  rw [Ends.of_run run] at ends
  obtain ⟨rfl, rfl⟩ := ends
  exact ⟨shelf, keep.isShelf, ordered, run⟩

theorem plain_notes {journals : Nat → Journal} {writers : Writers} {additions : List Addition}
    (plain : ∀ addition ∈ additions, addition.IsPlain) :
    ∀ note ∈ writers.notes journals additions, note.IsPlain := by
  intro note member
  obtain ⟨addition, inside, now, event⟩ := exists_of_mem_notes member
  have known := plain addition inside note.fields event
  rwa [now] at known

/-- Journals that share a directory, which was empty, and a size give events in the order in which they
were added, as long as the clock never goes back to an earlier day and no day comes to have more than a
hundred files. -/
theorem events_in_order {world : World} (positive : 0 < maxBytes) (vacant : IsVacant world.disk base root)
    (opened : IsOpenTo .read world.disk root) (additions : List Addition)
    (dated : ∀ addition ∈ additions, addition.now.day.IsDated)
    (never_back : NeverBack additions)
    (few : ∀ day, (((Writers.start world).addAll (fun _ => ⟨base, maxBytes⟩)
      additions).world.disk.tree.children (day :: root)).length ≤ 100) :
    let journals : Nat → Journal := fun _ => ⟨base, maxBytes⟩
    let disk := ((Writers.start world).addAll journals additions).world.disk
    let notes := (Writers.start world).notes journals additions
    (Journal.mk base maxBytes).events.run disk =
        (.ok (valuesOf (notes.map fun note => note.line.toList)), disk) ∧
      ((∀ addition ∈ additions, addition.IsPlain) → ∃ values,
        valuesOf (notes.map fun note => note.line.toList) = (values, none) ∧
          List.Forall₂ IsRecordOf notes values) := by
  intro journals disk notes
  obtain ⟨shelf, is, ordered, run⟩ := events_of_ordered positive vacant opened additions
  rw [run, ordered.inReading_eq is few (never_back.sorted dated journals _)]
  exact ⟨rfl, fun plain =>
    ⟨_, valuesOf_lines (plain_notes plain), forall₂_record (plain_notes plain)⟩⟩

/-- Events of one journal on two days. -/
def errands : List Addition :=
  [⟨0, bare.now, remarked "a"⟩, ⟨0, { bare.now with day := ⟨2024, 1, 4⟩ }, remarked "b"⟩]

theorem events_in_order_errands : (0 : Int) < 1 ∧ IsVacant bare.disk ⟨.root, ["log"]⟩ ["log"] ∧
    IsOpenTo .read bare.disk ["log"] ∧ (∀ addition ∈ errands, addition.now.day.IsDated) ∧ NeverBack errands ∧
    (∀ day, (((Writers.start bare).addAll (fun _ => ⟨⟨.root, ["log"]⟩, 1⟩) errands).world.disk.tree.children
      (day :: ["log"])).length ≤ 100) ∧
    let journals : Nat → Journal := fun _ => ⟨⟨.root, ["log"]⟩, 1⟩
    let disk := ((Writers.start bare).addAll journals errands).world.disk
    let notes := (Writers.start bare).notes journals errands
    notes.length = 2 ∧
      (Journal.mk ⟨.root, ["log"]⟩ 1).events.run disk =
        (.ok (valuesOf (notes.map fun note => note.line.toList)), disk) ∧
      ((∀ addition ∈ errands, addition.IsPlain) → ∃ values,
        valuesOf (notes.map fun note => note.line.toList) = (values, none) ∧
          List.Forall₂ IsRecordOf notes values) := by
  have dated : ∀ addition ∈ errands, addition.now.day.IsDated := by
    unfold Day.IsDated
    decide +kernel
  have never_back : NeverBack errands := by
    unfold NeverBack Day.IsBefore
    decide +kernel
  have few : ∀ day, (((Writers.start bare).addAll (fun _ => ⟨⟨.root, ["log"]⟩, 1⟩)
      errands).world.disk.tree.children (day :: ["log"])).length ≤ 100 := by
    intro day
    refine (List.length_filterMap_le _ _).trans ?_
    decide +kernel
  exact ⟨by decide, isVacant_bare, isOpenTo_bare .read, dated, never_back, few,
    by decide +kernel,
    events_in_order (by decide) isVacant_bare (isOpenTo_bare .read) errands dated never_back few⟩

/-- So many events of one journal on one day. -/
def crowd (count : Nat) : List Addition :=
  (List.range count).map fun number => ⟨0, bare.now, remarked (inDigits 3 number)⟩

/-- What is remarked in a note. -/
def Note.remark (note : Note) : Option Value := Fields.get? note.fields "remark"

theorem IsRecordOf.remark_eq {note other : Note} {value : Value} (record : IsRecordOf note value)
    (also : IsRecordOf other value) : note.remark = other.remark := by
  obtain ⟨kept, rfl, -, fields⟩ := record
  obtain ⟨_, same, -, others⟩ := also
  obtain rfl := Value.table.inj same
  have here := fields "remark"
  rw [others "remark"] at here
  simpa [Note.remark] using here.symm

theorem map_eq_of_forall₂ {α β γ : Type} {f : α → γ} {g : β → γ} {xs : List α} {ys : List β}
    (same : List.Forall₂ (fun x y => f x = g y) xs ys) : xs.map f = ys.map g := by
  induction same with
  | nil => rfl
  | cons first _ ih => rw [List.map_cons, List.map_cons, first, ih]

/-- What a journal of one-line files gives of so many events on one day is not in the order in which they
were added: there are none lost, and the clock does not go back. -/
def LosesOrder (count : Nat) : Prop :=
  let journals : Nat → Journal := fun _ => ⟨⟨.root, ["log"]⟩, 1⟩
  let disk := ((Writers.start bare).addAll journals (crowd count)).world.disk
  let notes := (Writers.start bare).notes journals (crowd count)
  NeverBack (crowd count) ∧ (∀ addition ∈ crowd count, addition.now.day.IsDated ∧ addition.IsPlain) ∧
    List.Forall₂ IsNoteOf (crowd count) notes ∧
    ∃ values, (Journal.mk ⟨.root, ["log"]⟩ 1).events.run disk = (.ok (values, none), disk) ∧
      ¬ List.Forall₂ IsRecordOf notes values

theorem exists_of_mem_crowd {count : Nat} {addition : Addition} (member : addition ∈ crowd count) :
    ∃ number, addition = ⟨0, bare.now, remarked (inDigits 3 number)⟩ := by
  obtain ⟨number, -, rfl⟩ := List.mem_map.mp member
  exact ⟨number, rfl⟩

theorem fine_crowd (count : Nat) :
    ∀ addition ∈ crowd count, addition.now.day.IsDated ∧ addition.IsPlain := by
  have dated : bare.now.day.IsDated := by
    unfold Day.IsDated
    decide +kernel
  intro addition member
  obtain ⟨number, rfl⟩ := exists_of_mem_crowd member
  exact ⟨dated, isPlain_remarked 0 bare.now _⟩

theorem neverBack_crowd (count : Nat) : NeverBack (crowd count) := by
  refine List.pairwise_of_forall_mem_list fun earlier member later later_member => ?_
  obtain ⟨number, rfl⟩ := exists_of_mem_crowd member
  obtain ⟨other, rfl⟩ := exists_of_mem_crowd later_member
  exact fun before => by simp [Day.IsBefore] at before

theorem noted_crowd {count : Nat} (fits : FitsDay ⟨.root, ["log"]⟩ bare.now.dayName count) :
    List.Forall₂ IsNoteOf (crowd count)
      ((Writers.start bare).notes (fun _ => ⟨⟨.root, ["log"]⟩, 1⟩) (crowd count)) := by
  have length : (crowd count).length = count := by simp [crowd]
  refine notes_of_valid isVacant_bare (isOpenTo_bare .write) (fun _ => 1) (crowd count)
    (fun addition member => ?_) fun addition member => ?_
  · obtain ⟨number, rfl⟩ := exists_of_mem_crowd member
    rwa [length]
  · obtain ⟨number, rfl⟩ := exists_of_mem_crowd member
    exact ⟨_, rfl⟩

/-- What is remarked in an event of the crowd. -/
def spelled (number : Nat) : Option Value := some (.text (inDigits 3 number))

theorem remarks_crowd {count : Nat} {notes : List Note} (noted : List.Forall₂ IsNoteOf (crowd count) notes) :
    (List.range count).map spelled = notes.map Note.remark := by
  refine map_eq_of_forall₂ ((List.forall₂_map_left_iff.mp noted).imp fun number note is_note => ?_)
  rw [Note.remark, ← Value.table.inj is_note.2]
  rfl

/-- What is read of the crowd is remarked in the order of reading. -/
theorem remarks_read {count : Nat} {notes reading : List Note}
    (noted : List.Forall₂ IsNoteOf (crowd count) notes)
    (in_reading : reading = (readingOrder count).filterMap (notes[·]?)) :
    reading.map Note.remark = (readingOrder count).map spelled := by
  rw [in_reading, List.map_filterMap, ← List.filterMap_eq_map]
  refine List.filterMap_congr fun number member => ?_
  have below := List.mem_range.mp ((readingOrder_perm count).mem_iff.mp member)
  have there : (notes.map Note.remark)[number]? = some (spelled number) := by
    rw [← remarks_crowd noted, List.getElem?_map, List.getElem?_range below, Option.map_some]
  rwa [List.getElem?_map] at there

/-- Notes that are read as the records of others are remarked as these are. -/
theorem remarks_of_records {notes reading : List Note} (plain : ∀ note ∈ reading, note.IsPlain)
    (same : List.Forall₂ IsRecordOf notes (reading.map Note.record)) :
    reading.map Note.remark = notes.map Note.remark := by
  have back : List.Forall₂ (fun other note => IsRecordOf note other.record) reading notes :=
    (List.forall₂_map_right_iff.mp same).flip
  refine map_eq_of_forall₂ (((List.forall₂_and_left _ _).mpr ⟨plain, back⟩).imp ?_)
  exact fun other note ⟨plain, record⟩ => plain.isRecordOf.remark_eq record

/-- With more than a hundred files in a day, the order of events is lost. -/
theorem losesOrder_of_many {count : Nat} (many : 100 < count)
    (fits : FitsDay ⟨.root, ["log"]⟩ bare.now.dayName count) : LosesOrder count := by
  unfold LosesOrder
  intro journals disk notes
  have noted : List.Forall₂ IsNoteOf (crowd count) notes := noted_crowd fits
  have length : notes.length = count := by simpa [crowd] using noted.length_eq.symm
  have plain : ∀ note ∈ notes, note.IsPlain :=
    plain_notes fun addition member => (fine_crowd count addition member).2
  have one_day : ∀ note ∈ notes, note.now.dayName = bare.now.dayName := fun note member => by
    obtain ⟨addition, inside, now, -⟩ := exists_of_mem_notes member
    obtain ⟨number, rfl⟩ := exists_of_mem_crowd inside
    rw [← now]
  obtain ⟨shelf, is, ordered, run⟩ :=
    events_of_ordered Int.one_pos isVacant_bare (isOpenTo_bare .read) (crowd count)
  have some_notes : notes ≠ [] := List.ne_nil_of_length_pos (by omega)
  have in_reading := ordered.inReading_single is some_notes one_day
  rw [length] at in_reading
  generalize inReading _ _ shelf = reading at in_reading run
  have plain_read : ∀ note ∈ reading, note.IsPlain := fun note member => by
    rw [in_reading] at member
    obtain ⟨number, -, there⟩ := List.mem_filterMap.mp member
    exact plain note (List.mem_of_getElem? there)
  rw [valuesOf_lines plain_read] at run
  refine ⟨neverBack_crowd count, fine_crowd count, noted, _, run, fun same => ?_⟩
  -- records in the order of the notes would have their remarks, which stand in that of reading
  have orders : (List.range count).map spelled = (readingOrder count).map spelled :=
    calc (List.range count).map spelled
      _ = notes.map Note.remark := remarks_crowd noted
      _ = reading.map Note.remark := (remarks_of_records plain_read same).symm
      _ = (readingOrder count).map spelled := remarks_read noted in_reading
  refine readingOrder_of_many many ((List.map_injective_iff.mpr fun m n equal => ?_) orders).symm
  exact inDigits_injective (Value.text.inj (Option.some.inj equal))

theorem losesOrder_hundred_one : IsVacant bare.disk ⟨.root, ["log"]⟩ ["log"] ∧ LosesOrder 101 := by
  have short : ∀ number < 101, (fileName number).utf8ByteSize ≤ 21 := by decide +kernel
  have day : (Path.child ⟨.root, ["log"]⟩ bare.now.dayName).text = "/log/20240102" := by decide +kernel
  have fits : FitsDay ⟨.root, ["log"]⟩ bare.now.dayName 101 := by
    refine ⟨⟨by decide +kernel, by decide +kernel⟩, fun number below => ?_⟩
    have size := short number below
    rw [Disk.Fits, Path.text_child (by decide +kernel) (isName_fileName number), if_neg (by decide +kernel),
      day, String.utf8ByteSize_append, String.utf8ByteSize_append, FileTree.pathLimit, FileTree.longestName]
    have slash : "/log/20240102".utf8ByteSize = 13 ∧ "/".utf8ByteSize = 1 := by decide +kernel
    omega
  exact ⟨isVacant_bare, losesOrder_of_many (by decide) fits⟩

end JavaStubs.Journal

import JavaStubs.Proofs.Files.Reading
import JavaStubs.Proofs.Journal.Access
import JavaStubs.Proofs.Journal.Lines
import JavaStubs.Proofs.Journal.Rotation
import JavaStubs.Text.UnicodeEscape

/-!
What journals give back. Whatever events were added through journals that share a directory, each of them
gives every one of these events once: the days and the files of each are all found, and each line is read
as the event that it was written of. That takes the rights to list the directory and those that are made in it,
and texts that are strings: a pair of surrogates comes back as the character that it stands for.
-/
namespace JavaStubs.Journal

open Disk (Fits SparesOwner)
open JavaStubs.Path (IsName hasNul)
open scoped List

-- a goal about a job on given names would be evaluated when a rule is applied to it
attribute [local irreducible] Ends

variable {base : Path} {root : Location} {shelf shelf' : Shelf} {disk before after : Disk} {day : String}
  {number : Nat} {note : Note}

/-! ## Files that can be read -/

/-- The days of a shelf, their files and what is above them can be read, and each stands once in its
directory. -/
structure IsLegible (base : Path) (root : Location) (disk : Disk) (shelf : Shelf) : Prop where
  spares : disk.SparesOwner
  short : ¬ FileTree.pathLimit ≤ base.text.utf8ByteSize
  top : disk.grants .read root = true ∧ disk.enters root = true
  ofDay : ∀ day, (shelf day).isSome → Fits base day ∧ disk.grants .read (day :: root) = true ∧
    disk.enters (day :: root) = true
  ofFile : ∀ day number, number < (shelf.files day).length → Fits (base.child day) (fileName number) ∧
    disk.grants .read (fileName number :: day :: root) = true
  days : (disk.tree.children root).Nodup
  files : ∀ day, (disk.tree.children (day :: root)).Nodup

theorem nodup_children_put {tree : FileTree} {name : String} {directory other : Location} {entry : Entry}
    (distinct : (tree.children other).Nodup) :
    ((tree.put (name :: directory) entry).children other).Nodup := by
  by_cases same : other = directory
  · subst same
    rw [FileTree.children_put, List.nodup_cons]
    exact ⟨fun member => by simpa using (List.mem_filter.mp member).2, distinct.filter _⟩
  · rwa [FileTree.children_put_of_ne same]

theorem IsLegible.allows (legible : IsLegible base root disk shelf) : Allows .read root disk shelf :=
  ⟨legible.top, fun day there => (legible.ofDay day there).2,
    fun day number below => (legible.ofFile day number below).2⟩

theorem IsLegible.opened (is : IsShelf before.tree root shelf) (legible : IsLegible base root before shelf)
    (opens : Opens base root day before after) : IsLegible base root after (shelf.opened day) := by
  have allows := legible.allows.opened is legible.spares opens
  have distinct (other : Location) (kept : (before.tree.children other).Nodup) :
      (after.tree.children other).Nodup := by
    obtain ⟨-, ⟨-, rfl⟩ | ⟨-, rfl⟩⟩ := opens
    · exact kept
    · exact nodup_children_put kept
  refine ⟨opens.sparesOwner legible.spares, legible.short, allows.top,
    fun other there => ⟨?_, allows.ofDay other there⟩,
    fun other number below => ⟨?_, allows.ofFile other number below⟩, distinct root legible.days,
    fun other => distinct _ (legible.files other)⟩
  · by_cases new : other = day
    · subst new
      exact opens.1
    · rw [Shelf.opened, Function.update_of_ne new] at there
      exact (legible.ofDay other there).1
  · rw [Shelf.files_opened] at below
    exact (legible.ofFile other number below).1

/-- A file of a day is written, which may be a new one. -/
theorem IsLegible.added {content : Content} (legible : IsLegible base root before shelf)
    (there : (shelf day).isSome) (within : number ≤ (shelf.files day).length)
    (fits : Fits (base.child day) (fileName number))
    (same : Disk.SameBut (· = fileName number :: day :: root) before after)
    (mask : after.mask = before.mask)
    (tree : after.tree = before.tree.put (fileName number :: day :: root) (.file content))
    (granted : after.grants .read (fileName number :: day :: root) = true) :
    IsLegible base root after (shelf.added day number note) := by
  have allows := @Allows.added _ _ _ _ _ _ note _ legible.allows there within same granted
  have distinct (other : Location) (kept : (before.tree.children other).Nodup) :
      (after.tree.children other).Nodup := by
    rw [tree]
    exact nodup_children_put kept
  have spares : after.SparesOwner := by
    rw [SparesOwner, mask]
    exact legible.spares
  refine ⟨spares, legible.short, allows.top, fun other known => ⟨?_, allows.ofDay other known⟩,
    fun other another below => ⟨?_, allows.ofFile other another below⟩, distinct root legible.days,
    fun other => distinct _ (legible.files other)⟩
  · by_cases here : other = day
    · subst here
      exact (legible.ofDay other there).1
    · rw [Shelf.added, Function.update_of_ne here] at known
      exact (legible.ofDay other known).1
  · rw [Shelf.files_added] at below
    split at below
    · next equal =>
      subst equal
      rw [length_addTo within] at below
      by_cases same_file : another = number
      · rwa [same_file]
      · exact (legible.ofFile other another (by omega)).1
    · exact (legible.ofFile other another below).1

/-- Whatever adding an event comes to, what is there can be read. -/
theorem IsLegible.change {maxBytes : Int} {now : Instant} {event : Value} {r : Except Fault Path}
    (is : IsShelf before.tree root shelf) (legible : IsLegible base root before shelf)
    (change : Change ⟨base, maxBytes⟩ root now event before shelf r after shelf') :
    IsLegible base root after shelf' := by
  cases change with
  | nothing fault => exact legible
  | opened opens => exact legible.opened is opens
  | @made fields middle number checked opens fits aims last vacant =>
    have opened := legible.opened is opens
    rw [← Shelf.added_opened]
    exact opened.added (by simp [Shelf.opened]) (by simpa using aims.within) fits
      (Disk.withNew_sameBut _ _) rfl rfl (Disk.grants_new_file opened.spares (by decide))
  | @added fields middle number old checked opens fits aims file space there =>
    have opened := legible.opened is opens
    rw [← Shelf.added_opened]
    refine opened.added (by simp [Shelf.opened]) (by simpa using aims.within) fits
      (Disk.withEntry_sameBut _) rfl rfl ?_
    rw [Disk.grants_withEntry there]
    refine (opened.ofFile now.dayName number ?_).2
    rw [Shelf.files_opened]
    exact (List.getElem?_eq_some_iff.mp file).1

/-! ## The notes on a shelf -/

/-- The notes of the days that a directory holds are the given ones, in some order. -/
def Holds (root : Location) (tree : FileTree) (shelf : Shelf) (notes : List Note) : Prop :=
  notes.Perm ((tree.children root).flatMap fun day => (shelf.files day).flatten)

/-- One more of the values of a function at one of several places. -/
theorem perm_flatMap_update {α β : Type} {f g : α → List β} {xs : List α} {x : α} {y : β}
    (distinct : xs.Nodup) (member : x ∈ xs) (here : (g x).Perm (y :: f x))
    (others : ∀ other, other ≠ x → g other = f other) : (xs.flatMap g).Perm (y :: xs.flatMap f) := by
  obtain ⟨front, back, rfl⟩ := List.append_of_mem member
  obtain ⟨-, back_distinct, apart⟩ := List.nodup_append.mp distinct
  have same_front : front.flatMap g = front.flatMap f :=
    List.flatMap_congr fun other inside => others other fun equal =>
      apart other inside x List.mem_cons_self equal
  have same_back : back.flatMap g = back.flatMap f :=
    List.flatMap_congr fun other inside => others other fun equal =>
      (List.nodup_cons.mp back_distinct).1 (equal ▸ inside)
  rw [List.flatMap_append, List.flatMap_append, List.flatMap_cons, List.flatMap_cons, same_front, same_back]
  exact ((here.append_right _).append_left _).trans List.perm_middle

theorem Holds.opened {notes : List Note} (is : IsShelf before.tree root shelf)
    (holds : Holds root before.tree shelf notes) (opens : Opens base root day before after) :
    Holds root after.tree (shelf.opened day) notes := by
  simp only [Holds, Shelf.files_opened]
  obtain ⟨-, ⟨-, rfl⟩ | ⟨vacant, rfl⟩⟩ := opens
  · exact holds
  · have absent : day ∉ before.tree.children root := by
      rw [FileTree.mem_children]
      exact fun there => there vacant
    have no_files : shelf.files day = [] := by rw [Shelf.files, is.files_eq_nil vacant, Option.getD_none]
    have children : (before.withNew (day :: root) .directory 0o777).tree.children root =
        day :: before.tree.children root := by
      change (before.tree.put (day :: root) .directory).children root = _
      rw [FileTree.children_put, List.filter_eq_self.mpr]
      intro other member
      simp only [bne_iff_ne, ne_eq]
      rintro rfl
      exact absent member
    rw [children, List.flatMap_cons, no_files]
    exact holds

theorem Holds.added {notes : List Note} {tree : FileTree} (number : Nat) (note : Note) (entry : Entry)
    (distinct : (tree.children root).Nodup) (there : tree.get? (day :: root) = some .directory)
    (holds : Holds root tree shelf notes) :
    Holds root (tree.put (fileName number :: day :: root) entry) (shelf.added day number note)
      (notes ++ [note]) := by
  have apart : root ≠ day :: root := location_ne (by simp)
  have member : day ∈ tree.children root := by
    rw [FileTree.mem_children, there]
    simp
  rw [Holds, FileTree.children_put_of_ne apart]
  refine List.perm_append_singleton _ _ |>.trans ((holds.cons note).trans (List.Perm.symm ?_))
  refine perm_flatMap_update distinct member ?_ fun other different => ?_
  · rw [Shelf.files_added, if_pos rfl]
    exact flatten_addTo _ _ _
  · rw [Shelf.files_added, if_neg different]

/-! ## Events that are added -/

/-- An event that is accepted is a table of the fields that are kept of it. -/
theorem check_eq_ok {event : Value} {fields : Fields} (checked : Event.check event = .ok fields) :
    event = .table fields := by
  unfold Event.check at checked
  split at checked
  · dsimp only at checked
    split at checked
    · obtain ⟨operation, -, checked⟩ := bind_eq_ok checked
      split at checked
      · obtain ⟨outcome, -, checked⟩ := bind_eq_ok checked
        split at checked
        · split at checked
          · cases checked
          · cases checked
            rfl
        · cases checked
      · cases checked
    · cases checked
  · cases checked

/-- The values of an event are texts, each with a name of its own. -/
def Addition.IsPlain (addition : Addition) : Prop :=
  ∀ fields, addition.event = .table fields → Note.IsPlain ⟨addition.now, fields⟩

/-- The shelf in a directory can be read, and holds the given notes, which can be read back. -/
structure Recorded (base : Path) (root : Location) (disk : Disk) (shelf : Shelf) (notes : List Note) :
    Prop where
  legible : IsLegible base root disk shelf
  holds : Holds root disk.tree shelf notes
  plain : ∀ note ∈ notes, note.IsPlain

theorem noted_of_checked {r : Except Fault Path} {path : Path} {fields : Fields} {addition : Addition}
    (checked : Event.check addition.event = .ok fields) (success : r = .ok path) :
    Writers.noted r addition = [⟨addition.now, fields⟩] := by
  subst success
  rw [Writers.noted.eq_def, check_eq_ok checked]

theorem Recorded.change {maxBytes : Int} {notes : List Note} {addition : Addition}
    {r : Except Fault Path} (recorded : Recorded base root before shelf notes)
    (is : IsShelf before.tree root shelf) (plain : addition.IsPlain)
    (change : Change ⟨base, maxBytes⟩ root addition.now addition.event before shelf r after shelf') :
    Recorded base root after shelf' (notes ++ Writers.noted r addition) := by
  have legible := recorded.legible.change is change
  have more {fields : Fields} (checked : Event.check addition.event = .ok fields) :
      ∀ note ∈ notes ++ [⟨addition.now, fields⟩], note.IsPlain := by
    intro note member
    rcases List.mem_append.mp member with member | last
    · exact recorded.plain note member
    · rw [List.mem_singleton.mp last]
      exact plain fields (check_eq_ok checked)
  cases change with
  | nothing fault => simpa [Writers.noted] using recorded
  | opened opens =>
    rw [Writers.noted, List.append_nil]
    · exact ⟨legible, recorded.holds.opened is opens, recorded.plain⟩
    · nofun
  | @made fields middle number checked opens fits aims last vacant =>
    have holds := (recorded.holds.opened is opens).added number ⟨addition.now, fields⟩
      (.file (.raw (notesBytes [⟨addition.now, fields⟩]))) (recorded.legible.opened is opens).days opens.there
    rw [Shelf.added_opened] at holds
    rw [noted_of_checked checked rfl]
    exact ⟨legible, holds, more checked⟩
  | @added fields middle number old checked opens fits aims file space there =>
    have holds := (recorded.holds.opened is opens).added number ⟨addition.now, fields⟩
      (.file (.raw (notesBytes (old ++ [⟨addition.now, fields⟩]))))
      (recorded.legible.opened is opens).days opens.there
    rw [Shelf.added_opened] at holds
    rw [noted_of_checked checked rfl]
    exact ⟨legible, holds, more checked⟩

/-! ## Reading -/

theorem mapM_ends {ε σ α β : Type} {f : α → ExceptT ε (StateM σ) β} {g : α → β} {xs : List α} {s : σ}
    {post : Except ε (List β) → σ → Prop}
    (each : ∀ x ∈ xs, Ends (f x) s fun r s' => r = .ok (g x) ∧ s' = s) (holds : post (.ok (xs.map g)) s) :
    Ends (xs.mapM f) s post := by
  induction xs generalizing post with
  | nil =>
    rw [List.mapM_nil, Ends.pure_iff]
    exact holds
  | cons x rest ih =>
    rw [List.mapM_cons, Ends.bind_iff]
    refine (each x List.mem_cons_self).mono fun r s' ends => ?_
    obtain ⟨rfl, rfl⟩ := ends
    rw [onward_ok, Ends.bind_iff]
    refine ih (fun y member => each y (List.mem_cons_of_mem x member)) ?_
    rw [onward_ok, Ends.pure_iff]
    exact holds

/-- The names in a directory, in order. -/
def namesIn (tree : FileTree) (location : Location) : List String :=
  (tree.children location).mergeSort fun a b => a ≤ b

theorem sortedNames_iff {location : Location} {post : Except FileFault (List String) → Disk → Prop}
    (granted : disk.grants .read location = true) :
    Ends (sortedNames location) disk post ↔ post (.ok (namesIn disk.tree location)) disk := by
  rw [sortedNames, Ends.bind_iff, Ends.get_iff, onward_ok, if_pos granted, Ends.pure_iff, namesIn]

theorem pairwise_sorted {α : Type} (name : α → String) (xs : List α) :
    (xs.mergeSort fun a b => name a ≤ name b).Pairwise fun a b => name a ≤ name b := by
  refine (List.pairwise_mergeSort (fun a b c => ?_) (fun a b => ?_) xs).imp of_decide_eq_true
  · simpa using String.le_trans
  · simpa using String.le_total (name a) (name b)

theorem pairwise_namesIn (tree : FileTree) (location : Location) :
    (namesIn tree location).Pairwise (· ≤ ·) :=
  pairwise_sorted id _

/-- The numbers of so many files in the order of their names, in which they are read. -/
def readingOrder (count : Nat) : List Nat :=
  (List.range count).mergeSort fun a b => fileName a ≤ fileName b

theorem readingOrder_perm (count : Nat) : (readingOrder count).Perm (List.range count) :=
  List.mergeSort_perm _ _

theorem pairwise_readingOrder (count : Nat) :
    (readingOrder count).Pairwise fun a b => fileName a ≤ fileName b :=
  pairwise_sorted fileName _

/-- The names in the directory of a day are those of its files. -/
theorem namesIn_day (is : IsShelf disk.tree root shelf) (legible : IsLegible base root disk shelf)
    (day : String) : namesIn disk.tree (day :: root) =
      (readingOrder (shelf.files day).length).map fileName := by
  have distinct : ((List.range (shelf.files day).length).map fileName).Nodup :=
    List.nodup_range.map fileName_injective
  have same : (disk.tree.children (day :: root)).Perm
      ((List.range (shelf.files day).length).map fileName) := by
    refine (List.perm_ext_iff_of_nodup (legible.files day) distinct).mpr fun name => ?_
    rw [FileTree.mem_children, is.held_iff, List.mem_map]
    constructor
    · rintro ⟨number, below, rfl⟩
      exact ⟨number, List.mem_range.mpr below, rfl⟩
    · rintro ⟨number, member, rfl⟩
      exact ⟨number, List.mem_range.mp member, rfl⟩
  refine List.Perm.eq_of_pairwise (fun _ _ _ _ => String.le_antisymm) (pairwise_namesIn _ _)
    (List.pairwise_map.mpr (pairwise_readingOrder _)) ?_
  exact (List.mergeSort_perm _ _).trans (same.trans ((readingOrder_perm _).symm.map fileName))

/-- The files that a journal finds are those of the days on the shelf, each once. -/
theorem files_ends {journal : Journal} {post : Except FileFault (List Path) → Disk → Prop}
    (is : IsShelf disk.tree root shelf) (reaches : disk.Reaches journal.directory root)
    (legible : IsLegible journal.directory root disk shelf)
    (holds : post (.ok ((namesIn disk.tree root).flatMap fun day =>
      (readingOrder (shelf.files day).length).map (pathOf journal.directory day))) disk) :
    Ends journal.files disk post := by
  have there := reaches.leads.find legible.short
  unfold files
  rw [Ends.bind_iff, Disk.probe_of_found reaches.free there, onward_ok]
  dsimp only
  rw [Ends.bind_iff, sortedNames_iff legible.top.1, onward_ok, Ends.bind_iff]
  let pathsOf (day : String) : List Path :=
    (readingOrder (shelf.files day).length).map (pathOf journal.directory day)
  refine @mapM_ends _ _ _ _ _ pathsOf _ _ _ (fun day member => ?_) ?_
  · have held : disk.tree.get? (day :: root) ≠ none := by
      rw [namesIn, (List.mergeSort_perm _ _).mem_iff, FileTree.mem_children] at member
      exact member
    have directory := is.day_directory held
    obtain ⟨-, is_name, -⟩ := is.isTree day root held
    obtain ⟨fits, granted, entered⟩ := legible.ofDay day (is.isSome_of_there directory)
    have found : disk.find .look (journal.directory.child day) = .ok (.entry (day :: root) .directory) := by
      rw [reaches.find_child is_name is.day_no_link legible.top.2 fits, FileTree.found, directory]
    rw [Ends.bind_iff, Ends.get_iff, onward_ok, found]
    dsimp only
    rw [Ends.bind_iff, sortedNames_iff granted, onward_ok, Ends.pure_iff, namesIn_day is legible]
    refine ⟨congrArg Except.ok ?_, rfl⟩
    have all (numbers : List Nat) : (numbers.map fileName).filter isFileName = numbers.map fileName := by
      rw [List.filter_eq_self]
      intro name inside
      obtain ⟨number, -, rfl⟩ := List.mem_map.mp inside
      exact isFileName_fileName number
    rw [all, List.map_map]
    refine List.map_congr_left fun number _ => ?_
    rw [Function.comp_apply, pathOf]
  · rw [onward_ok, Ends.pure_iff, ← List.flatMap_def]
    exact holds

theorem eventsOf_ends {κ : Type} {keys : List κ} {path : κ → Path} (lines : κ → List (List Char))
    {post : Except FileFault (List Value × Option Fault) → Disk → Prop}
    (each : ∀ key ∈ keys, ∃ bytes, Disk.Holds disk (path key) bytes ∧
      eventsIn bytes = valuesOf (lines key))
    (holds : post (.ok (valuesOf (keys.flatMap lines))) disk) :
    Ends (eventsOf (keys.map path)) disk post := by
  induction keys generalizing post with
  | nil =>
    rw [List.map_nil, eventsOf, Ends.pure_iff]
    exact holds
  | cons key rest ih =>
    obtain ⟨bytes, file, read⟩ := each key List.mem_cons_self
    have run : (Disk.readBytes (path key)).run disk = (.ok bytes, disk) := file
    rw [List.flatMap_cons, valuesOf_append] at holds
    rw [List.map_cons, eventsOf, Ends.bind_iff, Ends.get_iff, onward_ok, run]
    dsimp only
    rw [read]
    rcases spelled : valuesOf (lines key) with ⟨values, _ | fault⟩ <;> rw [spelled] at holds
    · dsimp only at holds ⊢
      rw [Ends.bind_iff]
      refine ih (fun other member => each other (List.mem_cons_of_mem key member)) ?_
      rw [onward_ok]
      exact Ends.pure_iff.mpr holds
    · exact Ends.pure_iff.mpr holds

/-- Each file on a shelf is read as its notes. -/
theorem eventsIn_file (is : IsShelf disk.tree root shelf) (reaches : disk.Reaches base root)
    (legible : IsLegible base root disk shelf) (below : number < (shelf.files day).length) :
    ∃ bytes, Disk.Holds disk (pathOf base day number) bytes ∧ eventsIn bytes =
      valuesOf (((shelf.files day)[number]?.getD []).map fun note => note.line.toList) := by
  have file := is.file day number
  rw [List.getElem?_eq_getElem below] at file
  obtain ⟨directory, -, -⟩ := is.isTree (fileName number) (day :: root) (by simp [file])
  obtain ⟨-, is_name, free⟩ := is.isTree day root (by simp [directory])
  obtain ⟨fits, -, entered⟩ := legible.ofDay day (is.isSome_of_there directory)
  obtain ⟨file_fits, granted⟩ := legible.ofFile day number below
  have into := reaches.child is_name free legible.top.2 fits.2 directory
  have clear : hasNul (pathOf base day number).text = false :=
    into.free_child (isName_fileName number) (hasNul_fileName number)
  have found := into.find_child (isName_fileName number) is.file_no_link entered file_fits
  rw [FileTree.found, file, ← pathOf] at found
  refine ⟨_, Disk.Holds.of_file clear found granted, ?_⟩
  rw [List.getElem?_eq_getElem below, Option.getD_some]
  exact eventsIn_notesBytes _

theorem flatMap_getElem?_range (files : List (List Note)) :
    ((List.range files.length).flatMap fun number => files[number]?.getD []) = files.flatten := by
  have all : (List.range files.length).map (fun number => files[number]?.getD []) = files := by
    refine List.ext_getElem (by simp) fun number _ below => ?_
    simp [List.getElem?_eq_getElem below]
  rw [List.flatMap_def, all]

/-- The notes of a day in the order in which they are read. -/
def dayInReading (shelf : Shelf) (day : String) : List Note :=
  (readingOrder (shelf.files day).length).flatMap fun number => (shelf.files day)[number]?.getD []

/-- The notes of a shelf in the order in which they are read. -/
def inReading (tree : FileTree) (root : Location) (shelf : Shelf) : List Note :=
  (namesIn tree root).flatMap (dayInReading shelf)

theorem dayInReading_perm (shelf : Shelf) (day : String) :
    (dayInReading shelf day).Perm (shelf.files day).flatten := by
  rw [← flatMap_getElem?_range]
  exact (readingOrder_perm _).flatMap_right _

theorem Holds.inReading_perm {tree : FileTree} {notes : List Note} (holds : Holds root tree shelf notes) :
    (inReading tree root shelf).Perm notes :=
  calc inReading tree root shelf
      _ ~ (namesIn tree root).flatMap fun day => (shelf.files day).flatten :=
        .flatMap_left _ fun day _ => dayInReading_perm shelf day
      _ ~ (tree.children root).flatMap fun day => (shelf.files day).flatten :=
        (List.mergeSort_perm _ _).flatMap_right _
      _ ~ notes := holds.symm

/-- A journal gives what the lines of the notes on the shelf spell, in the order of reading. -/
theorem events_read {journal : Journal} (is : IsShelf disk.tree root shelf)
    (reaches : disk.Reaches journal.directory root)
    (legible : IsLegible journal.directory root disk shelf) :
    Ends journal.events disk fun r after => after = disk ∧
      r = .ok (valuesOf ((inReading disk.tree root shelf).map fun note => note.line.toList)) := by
  let keys := (namesIn disk.tree root).flatMap fun day =>
    (readingOrder (shelf.files day).length).map fun number => (day, number)
  let linesAt (key : String × Nat) : List (List Char) :=
    ((shelf.files key.1)[key.2]?.getD []).map fun note => note.line.toList
  have files : ((namesIn disk.tree root).flatMap fun day =>
      (readingOrder (shelf.files day).length).map (pathOf journal.directory day)) =
      keys.map fun key => pathOf journal.directory key.1 key.2 := by
    simp only [keys, List.map_flatMap, List.map_map, Function.comp_def]
  have lines : keys.flatMap linesAt =
      (inReading disk.tree root shelf).map fun note => note.line.toList := by
    simp only [keys, linesAt, inReading, dayInReading, List.flatMap_assoc, List.flatMap_map,
      List.map_flatMap]
  unfold events
  rw [Ends.bind_iff]
  refine files_ends is reaches legible ?_
  rw [onward_ok, files]
  refine eventsOf_ends linesAt (fun key member => ?_) ⟨rfl, by rw [lines]⟩
  obtain ⟨day, -, member⟩ := List.mem_flatMap.mp member
  obtain ⟨number, counted, rfl⟩ := List.mem_map.mp member
  have below : number < (shelf.files day).length :=
    List.mem_range.mp ((readingOrder_perm _).mem_iff.mp counted)
  exact eventsIn_file is reaches legible below

/-- A journal gives the notes on the shelf, each once. -/
theorem events_ends {journal : Journal} {notes : List Note} (is : IsShelf disk.tree root shelf)
    (reaches : disk.Reaches journal.directory root)
    (recorded : Recorded journal.directory root disk shelf notes) :
    Ends journal.events disk fun r after => after = disk ∧ ∃ found : List Note, found.Perm notes ∧
      r = .ok (found.map Note.record, none) := by
  have same := recorded.holds.inReading_perm
  refine (events_read is reaches recorded.legible).mono fun r after ends => ?_
  obtain ⟨rfl, rfl⟩ := ends
  refine ⟨rfl, _, same, ?_⟩
  rw [valuesOf_lines fun note member => recorded.plain note (same.mem_iff.mp member)]

/-- An empty directory can be read, if its owner may and new files are not denied to them. -/
theorem Recorded.start (vacant : IsVacant disk base root) (opened : IsOpenTo .read disk root) :
    Recorded base root disk .empty [] := by
  have no_files (day : String) : disk.tree.children (day :: root) = [] := by
    refine List.eq_nil_iff_forall_not_mem.mpr fun name member => ?_
    have none_there : disk.tree.get? (day :: root) = none := FileTree.vacant_of_children vacant.empty day
    exact FileTree.mem_children.mp member (vacant.isTree.vacant_below (by simp [none_there]) name)
  refine ⟨⟨opened.spares, Disk.fits_of_find vacant.there, opened.top, fun day there => ?_,
    fun day number below => ?_, ?_, fun day => ?_⟩, ?_, fun note member => ?_⟩
  · cases there
  · exact absurd below (by simp)
  · rw [vacant.empty]
    exact List.nodup_nil
  · rw [no_files]
    exact List.nodup_nil
  · rw [Holds, vacant.empty]
    exact .nil
  · cases member

/-- Whatever events of texts are added through journals that share a directory, which was empty, each of
the journals gives exactly the events that were added, each with the time of its recording. In the text of
a line even surrogates are kept, unless two of them make a pair. -/
theorem events_of_additions {world : World} (vacant : IsVacant world.disk base root)
    (opened : IsOpenTo .read world.disk root) (maxBytes : Nat → Int) (additions : List Addition)
    (plain : ∀ addition ∈ additions, addition.IsPlain) (reader : Nat) :
    let journals : Nat → Journal := fun writer => ⟨base, maxBytes writer⟩
    let writers := (Writers.start world).addAll journals additions
    (∃ notes values, notes.Perm ((Writers.start world).notes journals additions) ∧
      (journals reader).events.run writers.world.disk = (.ok (values, none), writers.world.disk) ∧
      List.Forall₂ IsRecordOf notes values) ∧
    ∀ text : List CodePoint, CodePoint.IsUnpaired text → Json.quotedPoints? (Json.writePoints text) = some text := by
  intro journals writers
  refine ⟨?_, fun text => Json.quotedPoints?_writePoints⟩
  have start : Keep journals base root (Writers.start world) .empty := .start vacant
  obtain ⟨shelf, keep, recorded⟩ := start.addAll additions []
    (fun done writers shelf => Recorded base root writers.world.disk shelf done) (fun _ => rfl)
    (.start vacant opened)
    fun addition member done writers shelf shelf' keep recorded change =>
      recorded.change keep.isShelf (plain addition member) change
  have ends : Ends (journals reader).events writers.world.disk _ :=
    events_ends keep.isShelf keep.reaches recorded
  obtain ⟨r, after, run⟩ := Ends.exists_run (journals reader).events writers.world.disk
  rw [Ends.of_run run] at ends
  obtain ⟨rfl, notes, same, rfl⟩ := ends
  refine ⟨notes, notes.map Note.record, same, run, ?_⟩
  exact forall₂_record fun note member => recorded.plain note (same.mem_iff.mp member)

theorem isPlain_remarked (writer : Nat) (now : Instant) (remark : String) :
    Addition.IsPlain ⟨writer, now, remarked remark⟩ := by
  rintro fields ⟨⟩
  refine ⟨fun field member => ?_, by simp [Fields.names]⟩
  simp only [List.mem_cons, List.not_mem_nil, or_false] at member
  rcases member with rfl | rfl | rfl | rfl <;> exact ⟨_, rfl⟩

theorem isPlain_remarks : ∀ addition ∈ remarks, addition.IsPlain := by
  intro addition member
  simp only [remarks, List.mem_cons, List.not_mem_nil, or_false] at member
  rcases member with rfl | rfl
  · exact isPlain_remarked 0 _ _
  · exact isPlain_remarked 1 _ _

/-- There is every right to the empty directory. -/
theorem isOpenTo_bare (right : Right) : IsOpenTo right bare.disk ["log"] where
  spares := by
    unfold Disk.SparesOwner
    decide
  top := by cases right <;> decide +kernel

theorem events_of_additions_bare : IsVacant bare.disk ⟨.root, ["log"]⟩ ["log"] ∧
    IsOpenTo .read bare.disk ["log"] ∧ (∀ addition ∈ remarks, addition.IsPlain) ∧
    let journals : Nat → Journal := fun writer => ⟨⟨.root, ["log"]⟩, 100 * writer + 1⟩
    let writers := (Writers.start bare).addAll journals remarks
    ((Writers.start bare).notes journals remarks).length = 2 ∧
      (∃ notes values, notes.Perm ((Writers.start bare).notes journals remarks) ∧
        (journals 2).events.run writers.world.disk = (.ok (values, none), writers.world.disk) ∧
        List.Forall₂ IsRecordOf notes values) ∧
      ∀ text : List CodePoint, CodePoint.IsUnpaired text →
        Json.quotedPoints? (Json.writePoints text) = some text :=
  ⟨isVacant_bare, isOpenTo_bare .read, isPlain_remarks, by decide +kernel,
    events_of_additions isVacant_bare (isOpenTo_bare .read) (fun writer => 100 * writer + 1)
      remarks isPlain_remarks 2⟩

/-! ## Events that are lost -/

theorem sortedNames_denied {location : Location} {post : Except FileFault (List String) → Disk → Prop}
    (denied : disk.grants .read location = false) :
    Ends (sortedNames location) disk post ↔ post (.ok []) disk := by
  rw [sortedNames, Ends.bind_iff, Ends.get_iff, onward_ok, if_neg (by simp [denied]), Ends.pure_iff]

/-- A journal gives nothing of what is in directories that nobody may list. -/
theorem events_hidden {journal : Journal} (free : hasNul journal.directory.text = false)
    (there : disk.find .look journal.directory = .ok (.entry root .directory))
    (hidden : ∀ day ∈ disk.tree.children root, disk.grants .read root = true →
      disk.find .look (journal.directory.child day) = .ok (.entry (day :: root) .directory) ∧
        disk.grants .read (day :: root) = false) :
    journal.events.run disk = (.ok ([], none), disk) := by
  have ends : Ends journal.events disk fun r after => (r, after) = (.ok ([], none), disk) := by
    unfold events files
    rw [Ends.bind_iff, Ends.bind_iff, Disk.probe_of_found free there, onward_ok]
    dsimp only
    rw [Ends.bind_iff]
    cases listed : disk.grants .read root with
    | false =>
      rw [sortedNames_denied listed, onward_ok, List.mapM_nil, Ends.bind_iff, Ends.pure_iff, onward_ok,
        Ends.pure_iff, onward_ok]
      exact Ends.pure_iff.mpr rfl
    | true =>
      rw [sortedNames_iff listed, onward_ok, Ends.bind_iff]
      refine @mapM_ends _ _ _ _ _ (fun _ => []) _ _ _ (fun day member => ?_) ?_
      · rw [namesIn, (List.mergeSort_perm _ _).mem_iff] at member
        obtain ⟨found, denied⟩ := hidden day member listed
        rw [Ends.bind_iff, Ends.get_iff, onward_ok, found]
        dsimp only
        rw [Ends.bind_iff, sortedNames_denied denied, onward_ok]
        exact Ends.pure_iff.mpr ⟨rfl, rfl⟩
      · rw [onward_ok, Ends.pure_iff, onward_ok, List.map_const', List.flatten_replicate_nil]
        exact Ends.pure_iff.mpr rfl
  obtain ⟨r, after, run⟩ := Ends.exists_run journal.events disk
  rw [run]
  exact (Ends.of_run run).mp ends

/-- Two events are added to an empty directory of a world, and the journal gives nothing of them. -/
def LosesAll (world : World) : Prop :=
  let journal : Journal := ⟨⟨.root, ["log"]⟩, 100⟩
  let writers := (Writers.start world).addAll (fun _ => journal) remarks
  IsVacant world.disk ⟨.root, ["log"]⟩ ["log"] ∧
    ((Writers.start world).notes (fun _ => journal) remarks).length = 2 ∧
    journal.events.run writers.world.disk = (.ok ([], none), writers.world.disk)

/-- A world in which the empty directory may be written to, but not listed. -/
def unlisted : World := { bare with disk := { bare.disk with modes := [(["log"], 0o300)] } }

/-- A world in which new files and directories are denied the right to be read. -/
def masking : World := { bare with disk := { bare.disk with mask := 0o400 } }

/-- Without the right to list a directory its events are lost, be it that of the journals or that of a day. The
difference between a character beyond the basic plane and its pair of surrogates is lost as well: from the line
of the pair the character comes back. -/
theorem events_lost : (∀ addition ∈ remarks, addition.IsPlain) ∧ LosesAll unlisted ∧ LosesAll masking ∧
    Json.quotedPoints? (Json.writePoints [.surrogate 0, .surrogate 0x400]) =
      some [.char (Char.ofNat 0x10000)] := by
  have vacant {disk : Disk} (tree : disk.tree = bare.disk.tree) (here : disk.here = bare.disk.here)
      (there : disk.find .look ⟨.root, ["log"]⟩ = .ok (.entry ["log"] .directory)) :
      IsVacant disk ⟨.root, ["log"]⟩ ["log"] :=
    ⟨tree ▸ isVacant_bare.isTree, by rw [tree, here]; exact isVacant_bare.here, there,
      tree ▸ isVacant_bare.empty⟩
  refine ⟨isPlain_remarks, ⟨vacant rfl rfl (by decide +kernel), by decide +kernel, ?_⟩,
    ⟨vacant rfl rfl (by decide +kernel), by decide +kernel, ?_⟩, by decide +kernel⟩
  · exact @events_hidden ["log"] _ _ (by decide +kernel) (by decide +kernel) (by decide +kernel)
  · exact @events_hidden ["log"] _ _ (by decide +kernel) (by decide +kernel) (by decide +kernel)

end JavaStubs.Journal

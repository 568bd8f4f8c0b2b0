import Mathlib.Data.List.Nodup
import Mathlib.Data.List.Perm.Subperm
import Mathlib.Data.String.Basic
import JavaStubs.Journal.Basic
import JavaStubs.Proofs.Files.Below
import JavaStubs.Proofs.Files.Names
import JavaStubs.Proofs.Text.Digits

/-!
What journals keep in a directory. The names of days and of files are names that directories can hold, and
a file name belongs to one number. Names of days are in the order of the days as long as years have four
digits, and file names in that of their numbers as long as these have two. A shelf tells for each day that
there is the files of the day, in the order of their numbers, and of each file the notes in it; `IsShelf` says
that a directory holds a shelf and nothing else.
-/
namespace JavaStubs

open JavaStubs.Path (IsName hasNul)

/-! ## Names of days and files -/

theorem not_mem_of_digits {text : List Char} {c : Char} (digits : ∀ d ∈ text, d.isDigit = true)
    (other : c.isDigit = false) : c ∉ text := fun member =>
  absurd (digits c member) (by simp [other])

namespace Instant

theorem isDigit_dayName (now : Instant) : ∀ c ∈ now.dayName.toList, c.isDigit = true := by
  intro c member
  rw [dayName, String.toList_append, String.toList_append, Nat.toString_eq_repr, Nat.toList_repr] at member
  rcases List.mem_append.mp member with member | day
  · rcases List.mem_append.mp member with year | month
    · exact Nat.isDigit_of_mem_toDigits (by decide) (by decide) year
    · exact isDigit_inDigits month
  · exact isDigit_inDigits day

theorem isName_dayName (now : Instant) : IsName now.dayName := by
  have digits := now.isDigit_dayName
  have some_name : now.dayName.toList ≠ [] := by
    rw [dayName, String.toList_append]
    exact fun none => inDigits_ne_nil 2 now.day.day (List.append_eq_nil_iff.mp none).2
  have other {text : String} (marked : '.' ∈ text.toList) : now.dayName ≠ text := by
    rintro rfl
    exact not_mem_of_digits digits (by decide) marked
  refine ⟨?_, other (by decide), other (by decide), not_mem_of_digits digits (by decide)⟩
  rintro none
  exact some_name (by rw [none]; rfl)

theorem hasNul_dayName (now : Instant) : hasNul now.dayName = false := by
  rw [hasNul, List.contains_eq_mem, decide_eq_false_iff_not]
  exact not_mem_of_digits now.isDigit_dayName (by decide)

end Instant

namespace Day

/-- A day comes before another one. -/
def IsBefore (day other : Day) : Prop :=
  day.year < other.year ∨ day.year = other.year ∧
    (day.month < other.month ∨ day.month = other.month ∧ day.day < other.day)

theorem eq_or_isBefore {day other : Day} (not_back : ¬ other.IsBefore day) :
    day = other ∨ day.IsBefore other := by
  obtain ⟨year, month, number⟩ := day
  obtain ⟨other_year, other_month, other_number⟩ := other
  simp only [IsBefore, Day.mk.injEq] at not_back ⊢
  omega

/-- There is such a day, in a year of four digits. -/
def IsDated (day : Day) : Prop := day.exists_ = true ∧ 1000 ≤ day.year

theorem IsDated.bounds {day : Day} (dated : day.IsDated) :
    1000 ≤ day.year ∧ day.year < 10 ^ 4 ∧ day.month < 10 ^ 2 ∧ day.day < 10 ^ 2 := by
  obtain ⟨there, late⟩ := dated
  have short : inMonth day.year day.month ≤ 31 := by
    unfold inMonth
    split
    · split <;> decide
    · split <;> decide
  simp only [exists_, Bool.and_eq_true, decide_eq_true_eq] at there
  omega

end Day

theorem inDigits_eq_toString {n : Nat} (large : 1000 ≤ n) : inDigits 4 n = toString n := by
  have long : ¬ (Nat.toDigits 10 n).length ≤ 3 := by
    rw [Nat.length_toDigits_le_iff (by decide) (by decide)]
    omega
  have length : (toString n).length = (Nat.toDigits 10 n).length := by
    rw [Nat.toString_eq_repr, ← String.length_toList, Nat.toList_repr]
  have none_missing : 4 - (toString n).length = 0 := by omega
  rw [inDigits, none_missing, Text.repeated, String.empty_append]

theorem Instant.dayName_lt {earlier later : Instant} (before : earlier.day.IsBefore later.day)
    (dated : earlier.day.IsDated) (later_dated : later.day.IsDated) : earlier.dayName < later.dayName := by
  obtain ⟨late, -, -, -⟩ := dated.bounds
  obtain ⟨later_late, year, month, day⟩ := later_dated.bounds
  rw [String.lt_iff_toList_lt, dayName, dayName, ← inDigits_eq_toString late,
    ← inDigits_eq_toString later_late]
  simp only [String.toList_append, List.append_assoc]
  rcases before with years | ⟨same_year, months | ⟨same_month, days⟩⟩
  · exact inDigits_append_lt years year _ _
  · rw [same_year]
    exact List.append_left_lt (inDigits_append_lt months month _ _)
  · rw [same_year, same_month]
    refine List.append_left_lt (List.append_left_lt ?_)
    simpa using inDigits_append_lt days day [] []

namespace Journal

theorem toList_fileName (number : Nat) : (fileName number).toList =
    "implementor_".toList ++ (inDigits 2 number).toList ++ ".jsonl".toList := by
  rw [fileName, String.toList_append, String.toList_append]

private theorem not_mem_fileName {c : Char} (number : Nat) (start : c ∉ "implementor_".toList)
    (digit : c.isDigit = false) (last : c ∉ ".jsonl".toList) : c ∉ (fileName number).toList := by
  rw [toList_fileName, List.mem_append, List.mem_append]
  rintro ((member | member) | member)
  · exact start member
  · exact absurd (isDigit_inDigits member) (by simp [digit])
  · exact last member

theorem isName_fileName (number : Nat) : IsName (fileName number) := by
  have start : (fileName number).toList.head? = some 'i' := by
    rw [toList_fileName]
    rfl
  have other {text : String} (different : text.toList.head? ≠ some 'i') : fileName number ≠ text := by
    rintro rfl
    exact different start
  refine ⟨other (by decide), other (by decide), other (by decide), ?_⟩
  exact not_mem_fileName number (by decide) (by decide) (by decide)

theorem hasNul_fileName (number : Nat) : hasNul (fileName number) = false := by
  rw [hasNul, List.contains_eq_mem, decide_eq_false_iff_not]
  exact not_mem_fileName number (by decide) (by decide) (by decide)

theorem fileName_injective : Function.Injective fileName := by
  intro m n same
  have lists : (fileName m).toList = (fileName n).toList := congrArg String.toList same
  rw [toList_fileName, toList_fileName, List.append_assoc, List.append_assoc] at lists
  exact inDigits_injective (String.toList_inj.mp
    (List.append_cancel_right (List.append_cancel_left lists)))

theorem fileName_lt {m n : Nat} (less : m < n) (small : n < 100) : fileName m < fileName n := by
  rw [String.lt_iff_toList_lt, toList_fileName, toList_fileName, List.append_assoc, List.append_assoc]
  exact List.append_left_lt (inDigits_append_lt less small _ _)

/-- The first number of three digits. -/
theorem fileName_hundred : fileName 100 < fileName 11 := by decide +kernel

/-- The names of files are known as such. -/
theorem isFileName_fileName (number : Nat) : isFileName (fileName number) = true := by
  have starts : (fileName number).startsWith "implementor_" = true := by
    rw [String.startsWith_string_iff, toList_fileName, List.append_assoc]
    exact List.prefix_append _ _
  have ends : (fileName number).endsWith ".jsonl" = true := by
    rw [← String.endsWith_toSlice, String.Slice.endsWith_string_iff, String.copy_toSlice, toList_fileName]
    exact List.suffix_append _ _
  have long : "implementor_".length + ".jsonl".length ≤ (fileName number).length := by
    have length : (fileName number).length = "implementor_".toList.length +
        (inDigits 2 number).toList.length + ".jsonl".toList.length := by
      rw [← String.length_toList, toList_fileName, List.length_append, List.length_append]
    rw [length, ← String.length_toList, ← String.length_toList]
    omega
  rw [isFileName]
  simp only [starts, ends, long, decide_true, Bool.and_self]

end Journal
end JavaStubs

/-! ## Shelves -/

namespace JavaStubs.Journal

open FileTree (IsTree)
open JavaStubs.Path (IsName hasNul)

/-- An event that is kept, with the time of its recording. -/
structure Note where
  now : Instant
  fields : Fields

/-- The line that is kept of a note. -/
def Note.line (note : Note) : String := Event.line note.now note.fields

def bytesOf (lines : List String) : ByteArray := (String.join lines).toUTF8

theorem bytesOf_append (lines others : List String) :
    bytesOf (lines ++ others) = bytesOf lines ++ bytesOf others := by
  rw [bytesOf, String.join_append]
  exact String.toByteArray_append

theorem bytesOf_singleton (line : String) : bytesOf [line] = line.toUTF8 := by
  rw [bytesOf, String.join_cons, String.join_nil, String.append_empty]

/-- The bytes of a file of notes. -/
def notesBytes (notes : List Note) : ByteArray := bytesOf (notes.map Note.line)

theorem notesBytes_nil : notesBytes [] = ByteArray.empty := rfl

theorem notesBytes_concat (notes : List Note) (note : Note) :
    notesBytes (notes ++ [note]) = notesBytes notes ++ note.line.toUTF8 := by
  rw [notesBytes, List.map_append, bytesOf_append, List.map_singleton, bytesOf_singleton]
  rfl

/-- The files of each day that there is, in the order of their numbers, with the notes in them. -/
abbrev Shelf := String → Option (List (List Note))

/-- Files with one more note in one of them, or in a new one behind them. -/
def addTo : List (List Note) → Nat → Note → List (List Note)
  | [], _, note => [[note]]
  | file :: files, 0, note => (file ++ [note]) :: files
  | file :: files, number + 1, note => file :: addTo files number note

section AddTo
variable {files : List (List Note)} {number : Nat} {note : Note}

theorem getElem?_addTo (within : number ≤ files.length) (other : Nat) :
    (addTo files number note)[other]? =
      if other = number then some (files[number]?.getD [] ++ [note]) else files[other]? := by
  induction files generalizing number other with
  | nil =>
    obtain rfl : number = 0 := by simpa using within
    cases other <;> simp [addTo]
  | cons file files ih =>
    cases number with
    | zero => cases other <;> simp [addTo]
    | succ number =>
      cases other with
      | zero => simp [addTo]
      | succ other => simp [addTo, ih (by simpa using within)]

theorem length_addTo (within : number ≤ files.length) :
    (addTo files number note).length = max files.length (number + 1) := by
  induction files generalizing number with
  | nil =>
    obtain rfl : number = 0 := by simpa using within
    rfl
  | cons file files ih =>
    cases number with
    | zero => simp [addTo]
    | succ number =>
      rw [addTo, List.length_cons, ih (by simpa using within), List.length_cons]
      omega

theorem flatten_addTo (files : List (List Note)) (number : Nat) (note : Note) :
    (addTo files number note).flatten.Perm (note :: files.flatten) := by
  induction files generalizing number with
  | nil => exact .refl _
  | cons file files ih =>
    cases number with
    | zero =>
      rw [addTo, List.flatten_cons, List.append_assoc, List.singleton_append]
      exact List.perm_middle
    | succ number =>
      rw [addTo, List.flatten_cons]
      exact ((ih number).append_left file).trans List.perm_middle

/-- In the last file or behind it, a note comes after all others. -/
theorem flatten_addTo_last (last : files.length ≤ number + 1) :
    (addTo files number note).flatten = files.flatten ++ [note] := by
  induction files generalizing number with
  | nil => rfl
  | cons file files ih =>
    cases number with
    | zero =>
      obtain rfl : files = [] := List.length_eq_zero_iff.mp (by simpa using last)
      simp [addTo]
    | succ number =>
      rw [addTo, List.flatten_cons, ih (by simpa using last), List.flatten_cons, List.append_assoc]

end AddTo

namespace Shelf

/-- A shelf on which nothing has been put. -/
def empty : Shelf := fun _ => none

/-- The files of a day. -/
def files (shelf : Shelf) (day : String) : List (List Note) := (shelf day).getD []

@[simp] theorem files_empty (day : String) : empty.files day = [] := rfl

/-- The number of bytes of a file. -/
def size (shelf : Shelf) (day : String) (number : Nat) : Nat :=
  (notesBytes ((shelf.files day)[number]?.getD [])).size

/-- The shelf with a day opened, if it was not. -/
def opened (shelf : Shelf) (day : String) : Shelf := Function.update shelf day (some (shelf.files day))

/-- The shelf with one more note in a file of a day. -/
def added (shelf : Shelf) (day : String) (number : Nat) (note : Note) : Shelf :=
  Function.update shelf day (some (addTo (shelf.files day) number note))

variable {shelf : Shelf} {day : String} {number : Nat} {note : Note}

theorem opened_of_some {files : List (List Note)} (there : shelf day = some files) :
    shelf.opened day = shelf := by
  rw [opened, Shelf.files, there, Option.getD_some, ← there, Function.update_eq_self]

@[simp] theorem files_opened (other : String) : (shelf.opened day).files other = shelf.files other := by
  by_cases same : other = day
  · subst same
    simp [Shelf.files, opened]
  · simp [Shelf.files, opened, Function.update_of_ne same]

theorem files_added (other : String) : (shelf.added day number note).files other =
    if other = day then addTo (shelf.files day) number note else shelf.files other := by
  by_cases same : other = day
  · subst same
    simp [Shelf.files, added]
  · simp [Shelf.files, added, same]

@[simp] theorem added_opened : (shelf.opened day).added day number note = shelf.added day number note := by
  rw [added, files_opened, opened, Function.update_idem]
  rfl

/-- Nothing on a shelf goes away: days, files and the bytes in them only become more. -/
structure Grows (before after : Shelf) : Prop where
  days : ∀ day, (before day).isSome → (after day).isSome
  files : ∀ day, (before.files day).length ≤ (after.files day).length
  size : ∀ day number, before.size day number ≤ after.size day number

theorem Grows.refl (shelf : Shelf) : shelf.Grows shelf :=
  ⟨fun _ there => there, fun _ => Nat.le_refl _, fun _ _ => Nat.le_refl _⟩

theorem grows_opened : shelf.Grows (shelf.opened day) := by
  refine ⟨fun other there => ?_, fun other => ?_, fun other number => ?_⟩
  · by_cases same : other = day
    · simp [opened, same]
    · rwa [opened, Function.update_of_ne same]
  · exact Nat.le_of_eq (by rw [files_opened])
  · exact Nat.le_of_eq (by rw [size, size, files_opened])

theorem grows_added (within : number ≤ (shelf.files day).length) :
    shelf.Grows (shelf.added day number note) := by
  refine ⟨fun other there => ?_, fun other => ?_, fun other earlier => ?_⟩
  · by_cases same : other = day
    · simp [added, same]
    · rwa [added, Function.update_of_ne same]
  · rw [files_added]
    split
    · next same =>
      rw [same, length_addTo within]
      exact Nat.le_max_left _ _
    · exact Nat.le_refl _
  · rw [size, size, files_added]
    split
    · next same =>
      rw [same, getElem?_addTo within]
      split
      · next same =>
        rw [same, Option.getD_some, notesBytes_concat, ByteArray.size_append]
        exact Nat.le_add_right _ _
      · exact Nat.le_refl _
    · exact Nat.le_refl _

end Shelf

/-! ## Shelves in directories -/

/-- In a directory there are the days of a shelf, in those its files, and nothing else. -/
structure IsShelf (tree : FileTree) (root : Location) (shelf : Shelf) : Prop where
  isTree : tree.IsTree
  isDirectory : tree.get? root = some .directory
  day : ∀ day, tree.get? (day :: root) = (shelf day).map fun _ => .directory
  file : ∀ day number, tree.get? (fileName number :: day :: root) =
    (shelf.files day)[number]?.map fun notes => .file (.raw (notesBytes notes))
  others : ∀ day name, (∀ number, name ≠ fileName number) → tree.get? (name :: day :: root) = none

theorem location_ne {location other : Location} (longer : other.length < location.length) :
    other ≠ location := fun same => absurd longer (by rw [same]; exact Nat.lt_irrefl _)

namespace IsShelf

variable {tree : FileTree} {root : Location} {shelf : Shelf} {day : String} {number : Nat}

theorem files_eq_nil (is : IsShelf tree root shelf) (vacant : tree.get? (day :: root) = none) :
    shelf day = none := by
  have there := is.day day
  rw [vacant] at there
  simpa using there.symm

theorem day_eq_some (is : IsShelf tree root shelf) (there : tree.get? (day :: root) = some .directory) :
    shelf day = some (shelf.files day) := by
  have found := is.day day
  rw [there] at found
  cases files : shelf day with
  | none => simp [files] at found
  | some files' => rw [Shelf.files, files, Option.getD_some]

/-- What stands in the directory is the directory of a day. -/
theorem day_directory (is : IsShelf tree root shelf) (held : tree.get? (day :: root) ≠ none) :
    tree.get? (day :: root) = some .directory := by
  rw [is.day day] at held ⊢
  cases files : shelf day with
  | none => exact absurd (by rw [files, Option.map_none]) held
  | some files => rfl

theorem isSome_of_there (is : IsShelf tree root shelf) (there : tree.get? (day :: root) = some .directory) :
    (shelf day).isSome := by
  rw [is.day_eq_some there]
  rfl

/-- What stands in the directory of a day is one of its files. -/
theorem held_iff (is : IsShelf tree root shelf) (day name : String) :
    tree.get? (name :: day :: root) ≠ none ↔
      ∃ number < (shelf.files day).length, name = fileName number := by
  constructor
  · intro held
    have numbered : ∃ number, name = fileName number := Classical.byContradiction fun none =>
      held (is.others day name fun number same => none ⟨number, same⟩)
    obtain ⟨number, rfl⟩ := numbered
    rw [is.file day number, ne_eq, Option.map_eq_none_iff, List.getElem?_eq_none_iff, Nat.not_le] at held
    exact ⟨number, held, rfl⟩
  · rintro ⟨number, below, rfl⟩
    rw [is.file day number, List.getElem?_eq_getElem below]
    simp

theorem day_no_link (is : IsShelf tree root shelf) (target : String) :
    tree.get? (day :: root) ≠ some (.link target) := by
  rw [is.day day]
  cases shelf day <;> simp

theorem file_raw (is : IsShelf tree root shelf) {entry : Entry}
    (there : tree.get? (fileName number :: day :: root) = some entry) :
    ∃ notes, (shelf.files day)[number]? = some notes ∧ entry = .file (.raw (notesBytes notes)) := by
  rw [is.file day number] at there
  obtain ⟨notes, found, rfl⟩ := Option.map_eq_some_iff.mp there
  exact ⟨notes, found, rfl⟩

theorem file_no_link (is : IsShelf tree root shelf) (target : String) :
    tree.get? (fileName number :: day :: root) ≠ some (.link target) := by
  intro link
  obtain ⟨notes, -, file⟩ := is.file_raw link
  cases file

/-- A day is opened. -/
theorem opened (is : IsShelf tree root shelf) (named : IsName day) (free : hasNul day = false)
    (vacant : tree.get? (day :: root) = none) :
    IsShelf (tree.put (day :: root) .directory) root (shelf.opened day) := by
  have no_files := is.files_eq_nil vacant
  have get (other : Location) := FileTree.get?_put tree .directory other (List.cons_ne_nil day root)
  refine ⟨is.isTree.put is.isDirectory named free (.inl rfl), ?_, fun other => ?_, fun other number => ?_,
    fun other name different => ?_⟩
  · rw [get, if_neg (location_ne (by simp))]
    exact is.isDirectory
  · rw [get]
    by_cases same : other = day
    · simp [same, Shelf.opened]
    · rw [if_neg (by simpa using same), Shelf.opened, Function.update_of_ne same]
      exact is.day other
  · rw [get, if_neg (Ne.symm (location_ne (by simp))), Shelf.files_opened]
    exact is.file other number
  · rw [get, if_neg (Ne.symm (location_ne (by simp)))]
    exact is.others other name different

/-- A note is added to a file, which may be a new one behind the others. -/
theorem added (is : IsShelf tree root shelf) (there : tree.get? (day :: root) = some .directory)
    (within : number ≤ (shelf.files day).length) (note : Note) :
    IsShelf (tree.put (fileName number :: day :: root)
      (.file (.raw (notesBytes ((shelf.files day)[number]?.getD [] ++ [note]))))) root
      (shelf.added day number note) := by
  have get (other : Location) := FileTree.get?_put tree
    (.file (.raw (notesBytes ((shelf.files day)[number]?.getD [] ++ [note])))) other
    (List.cons_ne_nil (fileName number) (day :: root))
  have no_directory : tree.get? (fileName number :: day :: root) ≠ some .directory := by
    intro directory
    obtain ⟨notes, -, file⟩ := is.file_raw directory
    cases file
  refine ⟨is.isTree.put there (isName_fileName number) (hasNul_fileName number) (.inr no_directory), ?_,
    fun other => ?_, fun other another => ?_, fun other name different => ?_⟩
  · rw [get, if_neg (location_ne (by simp only [List.length_cons]; omega))]
    exact is.isDirectory
  · rw [get, if_neg (location_ne (by simp))]
    by_cases same : other = day
    · rw [same, there]
      simp [Shelf.added]
    · rw [Shelf.added, Function.update_of_ne same]
      exact is.day other
  · rw [get, Shelf.files_added]
    by_cases same : other = day
    · subst same
      rw [if_pos rfl, getElem?_addTo within]
      by_cases same : another = number
      · simp [same]
      · have different : fileName another ≠ fileName number := fun equal => same (fileName_injective equal)
        rw [if_neg (by simpa using different), if_neg same]
        exact is.file other another
    · rw [if_neg (by simp [same]), if_neg same]
      exact is.file other another
  · rw [get, if_neg (by simp [different number])]
    exact is.others other name different

/-- There are no more files of a day than entries in the tree. -/
theorem length_files_le (is : IsShelf tree root shelf) (day : String) :
    (shelf.files day).length ≤ tree.entries.length := by
  have named : ((List.range (shelf.files day).length).map fileName).Nodup :=
    List.nodup_range.map fileName_injective
  have inside : (List.range (shelf.files day).length).map fileName ⊆ tree.children (day :: root) := by
    intro name member
    obtain ⟨number, below, rfl⟩ := List.mem_map.mp member
    rw [FileTree.mem_children, is.held_iff]
    exact ⟨number, List.mem_range.mp below, rfl⟩
  calc (shelf.files day).length = ((List.range (shelf.files day).length).map fileName).length := by simp
    _ ≤ (tree.children (day :: root)).length := (List.subperm_of_subset named inside).length_le
    _ ≤ tree.entries.length := List.length_filterMap_le _ _

end IsShelf
end JavaStubs.Journal

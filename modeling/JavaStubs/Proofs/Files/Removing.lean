import Mathlib.Data.List.Nodup
import JavaStubs.Proofs.Files.Below

/-!
Removals of what lies in a directory that a path leads to. A removal has its effect unless it is refused, and
it is refused exactly if there is no right to change the directory, if the path is too long, if a file is one
that cannot be removed, or if something lies in a directory that is to be removed.
-/
namespace JavaStubs

namespace FileTree

variable {tree : FileTree} {location : Location}

/-- Each location has one entry at most. -/
def Distinct (tree : FileTree) : Prop := (tree.entries.map Prod.fst).Nodup

theorem Distinct.erase (distinct : tree.Distinct) (location : Location) : (tree.erase location).Distinct :=
  List.Nodup.sublist (List.filter_sublist.map _) distinct

theorem Distinct.nodup_children (distinct : tree.Distinct) (location : Location) :
    (tree.children location).Nodup := by
  unfold children
  refine List.Pairwise.filterMap _ (fun entry other apart name named also_name also same => ?_)
    (List.pairwise_map.mp distinct)
  -- an entry that gives the directory a name lies there under this name
  obtain ⟨_ | ⟨first, parent⟩, kind⟩ := entry
  · cases named
  obtain ⟨_ | ⟨second, directory⟩, also_kind⟩ := other
  · cases also
  simp only [Option.ite_none_right_eq_some, Option.some.injEq] at named also
  obtain ⟨rfl, rfl⟩ := named
  obtain ⟨rfl, rfl⟩ := also
  exact apart (congrArg (· :: _) same)

theorem mem_entries {entry : Entry} (some_location : location ≠ [])
    (held : tree.get? location = some entry) : (location, entry) ∈ tree.entries := by
  obtain ⟨name, directory, rfl⟩ := List.exists_cons_of_ne_nil some_location
  obtain ⟨before, after, split, -⟩ := List.lookup_eq_some_iff.mp held
  simp [split]

theorem mem_locations (some_location : location ≠ []) (there : tree.get? location ≠ none) :
    location ∈ tree.entries.map Prod.fst := by
  obtain ⟨entry, held⟩ := Option.ne_none_iff_exists'.mp there
  exact List.mem_map_of_mem (mem_entries some_location held)

/-- Entries that lie in directories, by names, are those of a tree. -/
theorem isTree_of_entries (inside : ∀ item ∈ tree.entries, tree.get? item.1.tail = some .directory ∧
    Path.IsName (item.1.headD "") ∧ Path.hasNul (item.1.headD "") = false) : tree.IsTree := by
  intro name directory there
  obtain ⟨entry, held⟩ := Option.ne_none_iff_exists'.mp there
  exact inside _ (mem_entries (List.cons_ne_nil name directory) held)

end FileTree

/-- A path is not too long to be followed, and neither is its last name. -/
def Path.IsShort (path : Path) : Prop :=
  ¬ FileTree.pathLimit ≤ path.text.utf8ByteSize ∧ ¬ FileTree.longestName < path.name.utf8ByteSize

instance (path : Path) : Decidable path.IsShort := inferInstanceAs (Decidable (_ ∧ _))

namespace Disk

/-- The outcome of a removal: it is refused and changes nothing, or it has its one effect. -/
def Removal (disk : Disk) (location : Location) (refused : Prop) (r : Except FileFault Unit)
    (after : Disk) : Prop :=
  refused ∧ (∃ fault, r = .error (.os fault)) ∧ after = disk ∨
    ¬ refused ∧ r = .ok () ∧ after = disk.without location

variable {disk : Disk} {path : Path} {location : Location} {refused : Prop} {cause : OsCause}

theorem Removal.congr {other : Prop} {r : Except FileFault Unit} {after : Disk}
    (removal : disk.Removal location refused r after) (same : refused ↔ other) :
    disk.Removal location other r after := by
  rwa [← propext same]

theorem refuse_removal (holds : refused) :
    Ends (refuse cause path) disk (disk.Removal location refused) :=
  .inl ⟨holds, ⟨_, rfl⟩, rfl⟩

theorem erase_removal (fails : ¬ refused) :
    Ends (erase location) disk (disk.Removal location refused) :=
  .inr ⟨fails, rfl, rfl⟩

theorem seek_of_error {purpose : FileTree.Purpose} {post : Except FileFault FileTree.Found → Disk → Prop}
    (free : Path.hasNul path.text = false) (lost : disk.find purpose path = .error cause) :
    Ends (seek purpose path) disk post ↔ post (.error (.os ⟨cause, some path.text⟩)) disk := by
  unfold seek checkName
  rw [if_neg (by simp [free]), Ends.bind_iff, Ends.pure_iff, onward_ok, Ends.bind_iff, Ends.get_iff,
    onward_ok, lost]
  rfl

theorem checkChange_removal {next : Unit → FileJob Unit}
    (stopped : disk.mayChange location = false → refused)
    (granted : disk.mayChange location = true → Ends (next ()) disk (disk.Removal location refused)) :
    Ends (checkChange location path >>= next) disk (disk.Removal location refused) := by
  unfold checkChange
  rw [Ends.bind_iff, Ends.bind_iff, Ends.get_iff, onward_ok]
  cases may : disk.mayChange location with
  | false => exact refuse_removal (stopped may)
  | true => exact granted may

/-- A path ends in a name of a directory that the path before it leads to, and names can be looked up there. -/
inductive Locates (disk : Disk) : Path → Location → Prop where
  | child {outer : Path} {name : String} {directory : Location} (named : Path.IsName name)
      (leads : disk.LeadsInto outer directory) (entered : disk.enters directory = true)
      (free : Path.hasNul (outer.child name).text = false) :
      Locates disk (outer.child name) (name :: directory)

namespace Locates

variable (locates : disk.Locates path location)

include locates

theorem free : Path.hasNul path.text = false := by
  obtain ⟨-, -, -, free⟩ := locates
  exact free

/-- What lies at the location is found, unless the path is too long. -/
theorem find {purpose : FileTree.Purpose} (looks : purpose ≠ .write)
    (free : purpose = .entry ∨ ∀ target, disk.tree.get? location ≠ some (.link target)) :
    disk.find purpose path = if path.IsShort then .ok (disk.tree.found location) else .error .nameTooLong := by
  cases locates with
  | @child outer name directory named leads entered free_text =>
    rw [find_child named leads looks free, entered, if_neg (c := (!true) = true) (by decide)]
    by_cases short : (outer.child name).IsShort
    · rw [if_pos short, if_neg short.1, if_neg (by simpa [Path.child_name_eq named] using short.2)]
    · rw [if_neg short]
      rw [Path.IsShort, Path.child_name_eq named, not_and_or, not_not, not_not] at short
      split
      · rfl
      · next fits => rw [if_pos (short.resolve_left fits)]

theorem find_of_isShort {entry : Entry} {purpose : FileTree.Purpose} (looks : purpose ≠ .write)
    (short : path.IsShort) (held : disk.tree.get? location = some entry)
    (free : purpose = .entry ∨ ∀ target, entry ≠ .link target) :
    disk.find purpose path = .ok (.entry location entry) := by
  rw [locates.find looks (free.imp_right (by simpa [held] using ·)), if_pos short, FileTree.found, held]

theorem leadsInto (held : disk.tree.get? location = some .directory) (short : path.IsShort) :
    disk.LeadsInto path location := by
  obtain ⟨named, leads, entered, -⟩ := locates
  rw [Path.IsShort, Path.child_name_eq named] at short
  exact leads.child named entered short.2 held

theorem removeFile {entry : Entry} (held : disk.tree.get? location = some entry)
    (file : entry ≠ .directory) :
    Ends (removeFile path) disk (disk.Removal location
      (disk.mayChange location = false ∨ path.name ∈ disk.stuck ∨ ¬ path.IsShort)) := by
  have not_directory : ¬ entry.isDirectory = true := by
    cases entry with
    | directory => exact absurd rfl file
    | _ => exact nofun
  unfold Disk.removeFile checkName
  rw [if_neg (by simp [locates.free]), Ends.bind_iff, Ends.pure_iff, onward_ok, Ends.bind_iff, Ends.get_iff,
    onward_ok]
  by_cases stuck : path.name ∈ disk.stuck
  · rw [if_pos (by simpa using stuck)]
    exact refuse_removal (.inr (.inl stuck))
  · rw [if_neg (by simpa using stuck), Ends.bind_iff]
    by_cases short : path.IsShort
    · rw [seek_of_found locates.free (locates.find_of_isShort (by decide) short held (.inl rfl)), onward_ok]
      refine checkChange_removal .inl fun granted => ?_
      rw [if_neg not_directory]
      exact erase_removal (by simp [stuck, short, granted])
    · rw [seek_of_error locates.free ((locates.find (by decide) (.inl rfl)).trans (if_neg short))]
      exact .inl ⟨.inr (.inr short), ⟨_, rfl⟩, rfl⟩

/-- A path that is too long leads to no directory that could be removed. -/
theorem removeDirectory_of_long (long : ¬ path.IsShort) (holds : refused) :
    Ends (removeDirectory path) disk (disk.Removal location refused) := by
  unfold Disk.removeDirectory
  rw [Ends.bind_iff, seek_of_error locates.free ((locates.find (by decide) (.inl rfl)).trans (if_neg long))]
  exact .inl ⟨holds, ⟨_, rfl⟩, rfl⟩

theorem removeDirectory (held : disk.tree.get? location = some .directory) (short : path.IsShort) :
    Ends (removeDirectory path) disk (disk.Removal location
      (disk.mayChange location = false ∨ disk.tree.children location ≠ [])) := by
  have found : disk.find .entry path = .ok (.entry location .directory) :=
    locates.find_of_isShort (by decide) short held (.inl rfl)
  have free := locates.free
  obtain ⟨named, -, -, -⟩ := locates
  unfold Disk.removeDirectory
  rw [Ends.bind_iff, seek_of_found free found, onward_ok]
  dsimp only
  rw [Path.child_name_eq named, if_neg (by simp [Path.names_child named]),
    if_pos (by simpa using named.not_dots)]
  refine checkChange_removal .inl fun granted => ?_
  rw [Ends.bind_iff, Ends.get_iff, onward_ok]
  split
  · next full => exact refuse_removal (.inr (by simpa [named.not_dots] using full))
  · next empty =>
    refine erase_removal fun refused => ?_
    simp [granted, named.not_dots] at refused empty
    exact refused empty

end Locates
end Disk
end JavaStubs

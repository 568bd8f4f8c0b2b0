import JavaStubs.Proofs.Files.Directories
import JavaStubs.Proofs.Files.Writing

/-!
What operations do at a name in a directory that a path leads to, where the path may be relative and
lead through links. Each operation either finds and changes what lies at that name or is refused and
changes nothing.
-/
namespace JavaStubs

namespace FileTree

variable {tree : FileTree} {name : String} {directory other : Location} {entry : Entry}

/-- The name of what lies at a location, if that is in a directory. -/
def childOf (directory : Location) : Location → Option String
  | name :: parent => if parent = directory then some name else none
  | [] => none

theorem childOf_eq_some {location : Location} :
    childOf directory location = some name ↔ location = name :: directory := by
  cases location with
  | nil => simp [childOf]
  | cons first parent => simp [childOf, and_comm]

theorem children_eq (tree : FileTree) (directory : Location) :
    tree.children directory = tree.entries.filterMap fun entry => childOf directory entry.1 := by
  rw [children]
  congr 1

/-- What is put in a directory is the first of what it holds. -/
theorem children_put : (tree.put (name :: directory) entry).children directory =
    name :: (tree.children directory).filter (· != name) := by
  have own : childOf directory (name :: directory) = some name := if_pos rfl
  rw [children_eq, children_eq, FileTree.put]
  dsimp only
  rw [List.filterMap_cons, own, List.filterMap_filter, List.filter_filterMap]
  dsimp only
  congr 2
  funext placed
  obtain ⟨location, held⟩ := placed
  cases child : childOf directory location with
  | none => simp
  | some first =>
    have place := childOf_eq_some.mp child
    by_cases same : first = name
    · simp [place, same, Option.filter]
    · simp [place, same, Option.filter]

theorem children_put_of_ne (different : other ≠ directory) :
    (tree.put (name :: directory) entry).children other = tree.children other := by
  have none_there : childOf other (name :: directory) = none := if_neg (Ne.symm different)
  rw [children_eq, children_eq, FileTree.put]
  dsimp only
  rw [List.filterMap_cons, none_there, List.filterMap_filter]
  dsimp only
  congr 1
  funext placed
  obtain ⟨location, held⟩ := placed
  by_cases same : location = name :: directory
  · simp [same, none_there]
  · simp [same]

/-- There is no NUL in names that lead anywhere. -/
theorem free_of_resolve {enters : Location → Bool} {links : Nat} {location place : Location}
    {names : List String} (root : tree.IsTree)
    (leads : tree.resolve enters .look links location names = .ok (.entry place entry)) :
    ∀ name ∈ names, Path.hasNul name = false := by
  fun_induction FileTree.resolve tree enters .look links location names with
  | case1 => simp
  | case2 links location names ih =>
    rw [List.forall_mem_cons]
    exact ⟨by decide, ih leads⟩
  | case4 links location names _ _ ih =>
    rw [List.forall_mem_cons]
    exact ⟨by decide, ih leads⟩
  | case5 links location names _ _ _ ih =>
    rw [List.forall_mem_cons]
    exact ⟨by decide, ih leads⟩
  | case10 links location name names _ _ _ _ _ _ there ih =>
    rw [List.forall_mem_cons]
    exact ⟨(root name location (by simp [there])).2.2, ih leads⟩
  | case13 location name names _ _ _ _ _ _ target there _ links ih =>
    rw [List.forall_mem_cons]
    exact ⟨(root name location (by simp [there])).2.2,
      fun other member => ih leads other (List.mem_append_right _ member)⟩
  | case11 links location name names _ _ _ _ _ _ target there last => simp at last
  | case14 links location name names _ _ _ _ _ _ entry _ _ there last =>
    obtain rfl := List.isEmpty_iff.mp last
    rw [List.forall_mem_singleton]
    exact (root name location (by simp [there])).2.2
  | _ => cases leads

end FileTree

namespace Disk

open FileTree (IsTree)
open JavaStubs.Path (IsName hasNul)

variable {disk before after : Disk} {path : Path} {name : String} {directory : Location}

/-- A path leads to a directory, from wherever it starts. -/
structure Reaches (disk : Disk) (path : Path) (directory : Location) : Prop where
  start : disk.tree.get? (disk.start path) = some .directory
  leads : disk.LeadsInto path directory
  free : hasNul path.text = false

namespace Reaches

theorem isDirectory (reaches : disk.Reaches path directory) (root : disk.tree.IsTree) :
    disk.tree.get? directory = some .directory :=
  reaches.leads.isDirectory_of_start root reaches.start

theorem kept (reaches : before.Reaches path directory) (root : before.tree.IsTree)
    (kept : KeepsRoutes before after) (here : after.here = before.here) :
    after.Reaches path directory :=
  have alike : StartsAlike before after path := .of_here reaches.start here
  ⟨alike.start_after kept, reaches.leads.kept_of_alike root alike kept, reaches.free⟩

theorem child (reaches : disk.Reaches path directory) (named : IsName name) (free : hasNul name = false)
    (entered : disk.enters directory = true) (short : ¬ FileTree.longestName < name.utf8ByteSize)
    (held : disk.tree.get? (name :: directory) = some .directory) :
    disk.Reaches (path.child name) (name :: directory) := by
  refine ⟨?_, reaches.leads.child named entered short held, ?_⟩
  · rw [start_child named]
    exact reaches.start
  · rw [Path.hasNul_child named, reaches.free, free]
    rfl

end Reaches

/-- A path with a name at its end is not too long to be followed. -/
def Fits (path : Path) (name : String) : Prop :=
  ¬ FileTree.pathLimit ≤ (path.child name).text.utf8ByteSize ∧
    ¬ FileTree.longestName < name.utf8ByteSize

/-- By way of a path, a name can be looked up in the directory that the path leads to. -/
def Admits (disk : Disk) (path : Path) (directory : Location) (name : String) : Prop :=
  disk.enters directory = true ∧ Fits path name

/-- A directory lies at a location, or may be made there. -/
def MayMakeDirectory (disk : Disk) (location : Location) : Prop :=
  disk.tree.get? location = none ∧ disk.mayChange location = true ∨
    disk.tree.get? location = some .directory

/-- What lies at a location may be written to, or something may be made there. -/
def MayWrite (disk : Disk) (location : Location) : Prop :=
  (disk.tree.get? location = none → disk.mayChange location = true) ∧
    ∀ content, disk.tree.get? location = some (.file content) → disk.grants .write location = true

/-- If a path with one more name leads anywhere, names can be looked up in the directory. -/
theorem entered_of_find_child {purpose : FileTree.Purpose} {found : FileTree.Found}
    (named : IsName name) (leads : disk.LeadsInto path directory)
    (free : purpose = .entry ∨ ∀ target, disk.tree.get? (name :: directory) ≠ some (.link target))
    (success : disk.find purpose (path.child name) = .ok found) :
    disk.enters directory = true ∧ Fits path name := by
  have fits := fits_of_find success
  have reached := resolve_of_find success
  rw [resolve_child named leads free] at reached
  split at reached
  · cases reached
  · next entered =>
    split at reached
    · cases reached
    · next short => exact ⟨by simpa using entered, fits, short⟩

/-- Where something could be found in a directory, what lies there when the directory is as it was is
found. -/
theorem find_child_of_sameAt {purpose : FileTree.Purpose} {found : FileTree.Found} {entry : Entry}
    (named : IsName name) (no_link : before.EndsInNoLink (path.child name))
    (reached : before.find purpose (path.child name) = .ok found) (leads : before.LeadsInto path directory)
    (still : after.LeadsInto path directory) (same : SameAt before after directory)
    (held : after.tree.get? (name :: directory) = some entry) (followed : ∀ target, entry ≠ .link target) :
    after.find .look (path.child name) = .ok (.entry (name :: directory) entry) := by
  have was_no_link (target : String) : before.tree.get? (name :: directory) ≠ some (.link target) :=
    no_link _ ((places_child named).mpr ⟨directory, leads, rfl⟩) target
  have is_no_link (target : String) : after.tree.get? (name :: directory) ≠ some (.link target) := by
    rw [held]
    exact fun link => followed target (Option.some.inj link)
  obtain ⟨entered, long, short⟩ := entered_of_find_child named leads (.inr was_no_link) reached
  rw [find_child named still (by decide) (.inr is_no_link), if_neg long, same.enters, entered,
    if_neg (by simp), if_neg short, FileTree.found, held]

theorem find_of_sameAt {purpose : FileTree.Purpose} {found : FileTree.Found} {entry : Entry}
    (plain : path.IsPlain) (named : IsName path.name) (no_link : before.EndsInNoLink path)
    (reached : before.find purpose path = .ok found) (leads : before.LeadsInto path.parent directory)
    (still : after.LeadsInto path.parent directory) (same : SameAt before after directory)
    (held : after.tree.get? (path.name :: directory) = some entry)
    (followed : ∀ target, entry ≠ .link target) :
    after.find .look path = .ok (.entry (path.name :: directory) entry) := by
  rcases plain.cases with none | ⟨parent, name, rfl, -, is_name⟩
  · exact absurd (by simp [Path.name, none]) named.nonempty
  · rw [Path.parent_child is_name] at leads still
    rw [Path.child_name_eq is_name] at held ⊢
    exact find_child_of_sameAt is_name no_link reached leads still same held followed

/-- In a new directory there is nothing on the way to any other. -/
theorem withNew_keepsRoutes {location : Location} {entry : Entry} {mode : Nat}
    (vacant : disk.tree.get? location = none) : KeepsRoutes disk (disk.withNew location entry mode) := by
  refine (withNew_sameBut entry mode).keepsRoutes ?_
  rintro _ rfl
  simp [vacant]

theorem withEntry_keepsRoutes {location : Location} {entry : Entry} {content : Content}
    (file : disk.tree.get? location = some (.file content)) :
    KeepsRoutes disk (disk.withEntry location entry) := by
  refine (withEntry_sameBut entry).keepsRoutes ?_
  rintro _ rfl
  simp [file]

theorem get?_withNew_self {entry : Entry} {mode : Nat} :
    (disk.withNew (name :: directory) entry mode).tree.get? (name :: directory) = some entry := by
  change (disk.tree.put (name :: directory) entry).get? (name :: directory) = _
  rw [FileTree.get?_put _ _ _ (by simp), if_pos rfl]

theorem get?_withEntry_self {entry : Entry} :
    (disk.withEntry (name :: directory) entry).tree.get? (name :: directory) = some entry := by
  change (disk.tree.put (name :: directory) entry).get? (name :: directory) = _
  rw [FileTree.get?_put _ _ _ (by simp), if_pos rfl]

/-- A name that can be looked up leads to what lies there, unless that is a link to be followed. -/
theorem Reaches.find_admitted {purpose : FileTree.Purpose} (reaches : disk.Reaches path directory)
    (named : IsName name) (admits : disk.Admits path directory name) (looks : purpose ≠ .write)
    (free : purpose = .entry ∨ ∀ target, disk.tree.get? (name :: directory) ≠ some (.link target)) :
    disk.find purpose (path.child name) = .ok (disk.tree.found (name :: directory)) := by
  obtain ⟨entered, fits⟩ := admits
  rw [Disk.find_child named reaches.leads looks free, if_neg fits.1, entered, if_neg (by simp),
    if_neg fits.2]

/-- A path whose end fits is followed to its end. -/
theorem Reaches.find_child (reaches : disk.Reaches path directory) (named : IsName name)
    (no_link : ∀ target, disk.tree.get? (name :: directory) ≠ some (.link target))
    (entered : disk.enters directory = true) (fits : Fits path name) :
    disk.find .look (path.child name) = .ok (disk.tree.found (name :: directory)) :=
  reaches.find_admitted named ⟨entered, fits⟩ (by decide) (.inr no_link)

theorem Reaches.find_written (reaches : disk.Reaches path directory) (named : IsName name)
    (no_link : ∀ target, disk.tree.get? (name :: directory) ≠ some (.link target))
    (admits : disk.Admits path directory name) (may_write : disk.MayWrite (name :: directory)) :
    disk.find .write (path.child name) = .ok (disk.tree.found (name :: directory)) := by
  rw [find, if_neg admits.2.1, Disk.resolve, resolve_child named reaches.leads (.inr no_link), admits.1,
    if_neg (by simp), if_neg admits.2.2]
  cases held : disk.tree.get? (name :: directory) with
  | none => simp [FileTree.found, held, Bind.bind, Except.bind, may_write.1 held]
  | some entry =>
    cases entry with
    | file content => simp [FileTree.found, held, Bind.bind, Except.bind, may_write.2 content held]
    | _ => simp [FileTree.found, held, Bind.bind, Except.bind]

theorem Reaches.free_child (reaches : disk.Reaches path directory) (named : IsName name)
    (free : hasNul name = false) : hasNul (path.child name).text = false := by
  rw [Path.hasNul_child named, reaches.free, free]
  rfl

theorem Reaches.of_new (reaches : disk.Reaches path directory) (root : disk.tree.IsTree)
    (named : IsName name) (free : hasNul name = false) (entered : disk.enters directory = true)
    (short : ¬ FileTree.longestName < name.utf8ByteSize)
    (vacant : disk.tree.get? (name :: directory) = none) (mode : Nat) :
    (disk.withNew (name :: directory) .directory mode).Reaches (path.child name) (name :: directory) := by
  have kept : KeepsRoutes disk (disk.withNew (name :: directory) .directory mode) :=
    withNew_keepsRoutes vacant
  have there := kept directory (.inl (reaches.isDirectory root))
  exact (reaches.kept root kept rfl).child named free (there.enters.trans entered) short get?_withNew_self

section

-- a job in a goal would be evaluated when a rule is applied to the goal
attribute [local irreducible] Ends

/-- A directory is made in one that a path leads to, or was there before; that is refused only where
there is no right to it. -/
theorem makeDirectories_child_ends {post : Except FileFault Unit → Disk → Prop}
    (reaches : disk.Reaches path directory) (root : disk.tree.IsTree) (named : IsName name)
    (free : hasNul name = false)
    (no_link : ∀ target, disk.tree.get? (name :: directory) ≠ some (.link target))
    (there : disk.tree.get? (name :: directory) = some .directory →
      disk.Reaches (path.child name) (name :: directory) → disk.enters directory = true →
      Fits path name → post (.ok ()) disk)
    (made : disk.tree.get? (name :: directory) = none →
      (disk.withNew (name :: directory) .directory 0o777).Reaches (path.child name) (name :: directory) →
      disk.enters directory = true → Fits path name →
      post (.ok ()) (disk.withNew (name :: directory) .directory 0o777))
    (refused : ¬ (disk.Admits path directory name ∧ disk.MayMakeDirectory (name :: directory)) →
      ∀ fault, post (.error fault) disk) :
    Ends (makeDirectories (path.child name)) disk post := by
  have length : (path.child name).names.length = path.names.length + 1 := by
    rw [Path.names_child named, List.length_append, List.length_singleton]
  rw [makeDirectories, length, makeDirectoriesFrom, Ends.tryCatch_iff]
  by_cases granted : disk.Admits path directory name ∧ disk.MayMakeDirectory (name :: directory)
  · obtain ⟨⟨entered, fits⟩, may_make⟩ := granted
    have clear := reaches.free_child named free
    have looked := reaches.find_child named no_link entered fits
    have found : disk.find .entry (path.child name) = .ok (disk.tree.found (name :: directory)) :=
      reaches.find_admitted named ⟨entered, fits⟩ (by decide) (.inl rfl)
    unfold makeDirectory
    rw [Ends.bind_iff, seek_of_found clear found, onward_ok]
    rcases may_make with ⟨vacant, change⟩ | held
    · rw [FileTree.found, vacant]
      dsimp only
      unfold checkChange putNew put
      rw [Ends.bind_iff, Ends.bind_iff, Ends.get_iff, onward_ok, change, if_neg (by simp), Ends.pure_iff,
        onward_ok, Ends.bind_iff, Ends.modify_iff, onward_ok, Ends.modify_iff, caught_ok]
      exact made vacant (reaches.of_new root named free entered fits.2 vacant _) entered fits
    · rw [FileTree.found, held] at looked ⊢
      dsimp only
      unfold refuse isDirectory
      rw [Ends.throw_iff, caught_error]
      dsimp only
      rw [Ends.bind_iff, Ends.bind_iff, probe_of_found clear looked, onward_ok, Ends.pure_iff, onward_ok,
        if_pos (by rfl), Ends.pure_iff]
      exact there held (reaches.child named free entered fits.2 held) entered fits
  · have refused := refused granted
    refine makeDirectory_ends (fun location _ vacant => ?_) fun fault missing => ?_
    · obtain ⟨other, leads, rfl, none_there, entered, short⟩ := vacant_of_find_child named vacant
      obtain rfl := reaches.leads.unique leads
      exact made none_there (reaches.of_new root named free entered short none_there _) entered
        ⟨fits_of_find vacant, short⟩
    · have passed (fault : FileFault) : Ends (throw fault) disk post := by
        rw [Ends.throw_iff]
        exact refused fault
      rw [caught_error]
      split
      · next file => exact absurd reaches.leads (find_notFound named (missing file rfl))
      · rw [Ends.bind_iff]
        refine isDirectory_ends (fun location found => ?_) (passed _) fun _ => refused _
        obtain ⟨entered, fits⟩ := entered_of_find_child named reaches.leads (.inr no_link) found
        have same := found_of_find_child named reaches.leads (.inr no_link) found
        unfold FileTree.found at same
        split at same
        · cases same
        · next held =>
          cases same
          rw [onward_ok, if_pos rfl, Ends.pure_iff]
          exact there held (reaches.child named free entered fits.2 held) entered fits
      · exact passed _

end

/-- A look at a name in a directory finds what lies there. -/
theorem probe_child_ends {post : Except FileFault (Option (Location × Entry)) → Disk → Prop}
    (reaches : disk.Reaches path directory) (named : IsName name) (free : hasNul name = false)
    (no_link : ∀ target, disk.tree.get? (name :: directory) ≠ some (.link target))
    (there : ∀ entry, disk.tree.get? (name :: directory) = some entry →
      post (.ok (some (name :: directory, entry))) disk)
    (absent : disk.tree.get? (name :: directory) = none → post (.ok none) disk)
    (refused : ¬ disk.Admits path directory name → ∀ refusal, post (.error (.os refusal)) disk) :
    Ends (probe (path.child name)) disk post := by
  have clear := reaches.free_child named free
  unfold probe
  rw [if_neg (by simp [clear]), Ends.bind_iff, Ends.get_iff, onward_ok]
  cases reached : disk.find .look (path.child name) with
  | ok found =>
    obtain rfl := found_of_find_child named reaches.leads (.inr no_link) reached
    rw [FileTree.found]
    cases held : disk.tree.get? (name :: directory) with
    | none => exact absent held
    | some entry => exact there entry held
  | error cause =>
    -- with what the path leads to in place, nothing that can go wrong means that the name is absent
    have kind : meansAbsent cause = false := by
      rw [find_child named reaches.leads (by decide) (.inr no_link)] at reached
      split at reached
      · cases reached
        rfl
      split at reached
      · cases reached
        rfl
      split at reached
      · cases reached
        rfl
      · cases reached
    have barred : ¬ disk.Admits path directory name := fun admits => by
      rw [reaches.find_admitted named admits (by decide) (.inr no_link)] at reached
      cases reached
    dsimp only
    rw [kind]
    exact refused barred _

/-- Bytes are added to a file in a directory that a path leads to, or the file is made of them. -/
theorem append_child_ends {post : Except FileFault Unit → Disk → Prop} {bytes : ByteArray}
    (reaches : disk.Reaches path directory) (named : IsName name) (free : hasNul name = false)
    (files : ∀ entry, disk.tree.get? (name :: directory) = some entry → ∃ content, entry = .file content)
    (made : disk.tree.get? (name :: directory) = none → Fits path name →
      post (.ok ()) (disk.withNew (name :: directory) (.file (.raw (ByteArray.empty ++ bytes))) 0o666))
    (added : ∀ content, disk.tree.get? (name :: directory) = some (.file content) → Fits path name →
      post (.ok ()) (disk.withEntry (name :: directory) (.file (.raw (content.toBytes ++ bytes)))))
    (refused : ¬ (disk.Admits path directory name ∧ disk.MayWrite (name :: directory)) →
      ∀ fault, post (.error fault) disk) :
    Ends (append (path.child name) bytes) disk post := by
  have no_link (target : String) : disk.tree.get? (name :: directory) ≠ some (.link target) := by
    intro link
    obtain ⟨content, file⟩ := files _ link
    cases file
  unfold append openForWriting
  rw [Ends.bind_iff, Ends.bind_iff]
  have barred {cause : OsCause} (lost : disk.find .write (path.child name) = .error cause) :
      ¬ (disk.Admits path directory name ∧ disk.MayWrite (name :: directory)) := by
    rintro ⟨admits, may_write⟩
    rw [reaches.find_written named no_link admits may_write] at lost
    cases lost
  refine seek_ends (fun found _ reached => ?_) (fun cause lost => refused (barred lost) _)
    fun nul => absurd nul (by simp [reaches.free_child named free])
  have fits := (entered_of_find_child named reaches.leads (.inr no_link) reached).2
  obtain rfl := found_of_find_child named reaches.leads (.inr no_link) reached
  rw [onward_ok, FileTree.found]
  cases held : disk.tree.get? (name :: directory) with
  | none =>
    dsimp only
    rw [Ends.pure_iff, onward_ok]
    dsimp only
    unfold putFile
    rw [Ends.bind_iff, Ends.get_iff, onward_ok, held]
    exact made held fits
  | some entry =>
    obtain ⟨content, rfl⟩ := files entry held
    dsimp only
    rw [Ends.pure_iff, onward_ok]
    dsimp only
    unfold putFile
    rw [Ends.bind_iff, Ends.get_iff, onward_ok, held]
    exact added content held fits

/-- A file that is written in a directory that a path leads to is found there, unless a device is. -/
theorem write_child_found {content : Content} (root : disk.tree.IsTree)
    (start : disk.tree.get? (disk.start path) = some .directory) (named : IsName name)
    (no_link : disk.EndsInNoLink (path.child name)) :
    Ends (write (path.child name) content) disk fun
      | .ok location, after => Written location content disk after ∧ StartsAlike disk after path ∧
          ∃ entry, after.find .look (path.child name) = .ok (.entry location entry) ∧
            after.tree.get? location = some entry
      | .error _, after => after = disk := by
  refine ((write_child_ends root start named no_link).and (write_here _ content disk)).mono
    fun r after ends => ?_
  obtain ⟨ends, here⟩ := ends
  cases r with
  | error fault => exact ends
  | ok location =>
    obtain ⟨-, written, found, reached, rfl⟩ := ends
    have alike : StartsAlike disk after path := .of_here start here
    have same : (path.child name).anchor = path.anchor := by rw [Path.child_name named]
    obtain ⟨entry, held, writable⟩ := written.writable
    refine ⟨written, alike, entry, ?_, held⟩
    exact find_of_written root (alike.of_anchor same) written.keepsRoutes held writable.isLeaf.2 reached

end Disk
end JavaStubs

import JavaStubs.Proofs.Files.Routes
import JavaStubs.Proofs.Jobs

/-!
What operations on files change. There is one rule for each operation: it either has its one effect
or is refused and changes nothing.
-/
namespace JavaStubs

namespace FileTree

variable {tree : FileTree} {name : String} {directory location : Location} {entry : Entry}

theorem IsTree.vacant_below (root : tree.IsTree) (none_here : tree.get? location ≠ some .directory)
    (name : String) : tree.get? (name :: location) = none :=
  Decidable.byContradiction fun there => none_here (root name location there).1

theorem mem_children : name ∈ tree.children directory ↔ tree.get? (name :: directory) ≠ none := by
  have held : tree.get? (name :: directory) = tree.entries.lookup (name :: directory) := rfl
  rw [held, children]
  induction tree.entries with
  | nil => simp
  | cons entry rest ih =>
    obtain ⟨key, value⟩ := entry
    by_cases same : key = name :: directory
    · subst same
      simp
    · have other : (name :: directory == key) = false := by simpa using Ne.symm same
      rw [List.lookup_cons, other, List.filterMap_cons]
      cases key with
      | nil => exact ih
      | cons first parent =>
        by_cases inside : parent = directory
        · subst inside
          have different : name ≠ first := by
            rintro rfl
            exact same rfl
          simpa [different] using ih
        · simpa [inside] using ih

theorem vacant_of_children (empty : tree.children directory = []) (name : String) :
    tree.get? (name :: directory) = none := by
  refine Decidable.byContradiction fun there => ?_
  have member := mem_children.mpr there
  rw [empty] at member
  cases member

theorem get?_put_of_ne {other : Location} (different : other ≠ location) :
    (tree.put location entry).get? other = tree.get? other := by
  cases other with
  | nil => rfl
  | cons name directory =>
    have unequal : (name :: directory == location) = false := by simpa using different
    simp only [get?, FileTree.put, List.lookup_cons, unequal]
    rw [lookup_filter_ne, if_neg different]

theorem get?_erase_of_ne {other : Location} (different : other ≠ location) :
    (tree.erase location).get? other = tree.get? other := by
  cases other with
  | nil => rfl
  | cons name directory =>
    simp only [get?, FileTree.erase]
    rw [lookup_filter_ne, if_neg different]

/-- A tree with a new or changed entry, in which nothing lies unless it is a directory. -/
theorem IsTree.put (root : tree.IsTree) (above : tree.get? directory = some .directory)
    (named : Path.IsName name) (free : Path.hasNul name = false)
    (below : entry = .directory ∨ tree.get? (name :: directory) ≠ some .directory) :
    (tree.put (name :: directory) entry).IsTree := by
  intro other parent there
  rw [get?_put _ _ _ (by simp)] at there ⊢
  have shorter : directory ≠ name :: directory := fun same => by
    have := congrArg List.length same
    simp at this
  split at there
  · next same =>
    obtain ⟨rfl, rfl⟩ := List.cons.inj same
    rw [if_neg shorter]
    exact ⟨above, named, free⟩
  · obtain ⟨held, rest⟩ := root other parent there
    refine ⟨?_, rest⟩
    split
    · next same =>
      subst same
      rcases below with rfl | none_here
      · rfl
      · exact absurd (root.vacant_below none_here other) there
    · exact held

theorem IsTree.erase (root : tree.IsTree) (some_location : location ≠ [])
    (below : ∀ name, tree.get? (name :: location) = none) : (tree.erase location).IsTree := by
  intro other parent there
  rw [get?_erase _ _ some_location] at there ⊢
  split at there
  · exact absurd rfl there
  · obtain ⟨held, rest⟩ := root other parent there
    refine ⟨?_, rest⟩
    split
    · next same =>
      subst same
      exact absurd (below other) there
    · exact held

end FileTree

/-- A location is another one's own, or lies above or below it. -/
def Location.IsAround (root location : Location) : Prop := location <:+ root ∨ root <:+ location

theorem Location.IsAround.of_suffix {root location other : Location} (around : root.IsAround location)
    (above : other <:+ location) : root.IsAround other := by
  rcases around with inside | below
  · exact .inl (above.trans inside)
  · exact List.suffix_or_suffix_of_suffix above below

namespace Disk

open FileTree (Purpose Found IsTree)

/-- Outside of the locations that may change, all is as it was. -/
def SameBut (changed : Location → Prop) (before after : Disk) : Prop :=
  ∀ location, ¬ changed location → SameAt before after location

section SameBut
variable {changed others : Location → Prop} {before middle after : Disk}

theorem SameAt.refl (disk : Disk) (location : Location) : SameAt disk disk location := ⟨rfl, rfl⟩

theorem SameAt.trans {location : Location} (first : SameAt before middle location)
    (second : SameAt middle after location) : SameAt before after location :=
  ⟨second.1.trans first.1, second.2.trans first.2⟩

theorem SameBut.refl (disk : Disk) : SameBut changed disk disk := fun location _ => .refl disk location

theorem SameBut.trans (first : SameBut changed before middle) (second : SameBut changed middle after) :
    SameBut changed before after := fun location unchanged =>
  (first location unchanged).trans (second location unchanged)

theorem SameBut.mono (same : SameBut changed before after)
    (more : ∀ location, changed location → others location) : SameBut others before after :=
  fun location unchanged => same location fun change => unchanged (more location change)

theorem SameBut.keepsRoutes (same : SameBut changed before after)
    (vacant : ∀ location, changed location → before.tree.get? location ≠ some .directory ∧
      ∀ target, before.tree.get? location ≠ some (.link target)) : KeepsRoutes before after := by
  rintro location (there | ⟨target, there⟩)
  · exact same location fun change => (vacant location change).1 there
  · exact same location fun change => (vacant location change).2 target there

end SameBut

variable {disk : Disk} {path : Path} {location : Location} {entry : Entry} {content : Content}

/-- The disk with something new at a location. -/
def withNew (disk : Disk) (location : Location) (entry : Entry) (mode : Nat) : Disk :=
  { disk with tree := disk.tree.put location entry }.withMode location (disk.masked mode)

/-- The disk with something else at a location. -/
def withEntry (disk : Disk) (location : Location) (entry : Entry) : Disk :=
  { disk with tree := disk.tree.put location entry }

/-- The disk without what lies at a location. -/
def without (disk : Disk) (location : Location) : Disk :=
  { disk with
    tree := disk.tree.erase location
    modes := disk.modes.filter (·.1 != location) }

theorem withMode_sameBut (mode : Nat) : SameBut (· = location) disk (disk.withMode location mode) := by
  intro other different
  refine ⟨rfl, ?_⟩
  have unfiltered : (disk.modes.filter (·.1 != location)).lookup other = disk.modes.lookup other := by
    rw [FileTree.lookup_filter_ne, if_neg different]
  unfold withMode
  simp only
  split
  · exact unfiltered
  · rw [List.lookup_cons, show (other == location) = false by simpa using different]
    exact unfiltered

theorem withEntry_sameBut (entry : Entry) :
    SameBut (· = location) disk (disk.withEntry location entry) :=
  fun _ different => ⟨FileTree.get?_put_of_ne different, rfl⟩

theorem withNew_sameBut (entry : Entry) (mode : Nat) :
    SameBut (· = location) disk (disk.withNew location entry mode) :=
  (withEntry_sameBut entry).trans (withMode_sameBut _)

theorem without_sameBut : SameBut (· = location) disk (disk.without location) :=
  fun _ different => ⟨FileTree.get?_erase_of_ne different,
    (FileTree.lookup_filter_ne _ _ _).trans (if_neg different)⟩

/-! ## Rules of operations -/

section Rules
variable {purpose : Purpose}

/-- A fault that is raised for a path is one of the operating system unless there is NUL in it. -/
def IsRefusal (path : Path) (fault : FileFault) : Prop :=
  Path.hasNul path.text = false → ∃ refusal, fault = .os refusal

theorem IsRefusal.of_os (refusal : OsFault) : IsRefusal path (.os refusal) := fun _ => ⟨refusal, rfl⟩

theorem checkName_ends {post : Except FileFault Unit → Disk → Prop}
    (free : Path.hasNul path.text = false → post (.ok ()) disk)
    (nul : Path.hasNul path.text = true → post (.error .nulInName) disk) :
    Ends (checkName path) disk post := by
  unfold checkName
  split
  · next there => exact nul there
  · next none => exact free (by simpa using none)

theorem seek_ends {post : Except FileFault Found → Disk → Prop}
    (found : ∀ found, Path.hasNul path.text = false → disk.find purpose path = .ok found →
      post (.ok found) disk)
    (lost : ∀ cause, disk.find purpose path = .error cause →
      post (.error (.os ⟨cause, some path.text⟩)) disk)
    (nul : Path.hasNul path.text = true → post (.error .nulInName) disk) :
    Ends (seek purpose path) disk post := by
  unfold seek
  rw [Ends.bind_iff]
  refine checkName_ends (fun free => ?_) nul
  rw [onward_ok, Ends.bind_iff, Ends.get_iff, onward_ok]
  split
  · next place reached => exact found place free reached
  · next cause reached => exact lost cause reached

theorem seek_of_found {found : Found} {post : Except FileFault Found → Disk → Prop}
    (free : Path.hasNul path.text = false) (there : disk.find purpose path = .ok found) :
    Ends (seek purpose path) disk post ↔ post (.ok found) disk := by
  unfold seek checkName
  rw [if_neg (by simp [free]), Ends.bind_iff, Ends.pure_iff, onward_ok, Ends.bind_iff, Ends.get_iff,
    onward_ok, there]
  rfl

theorem checkChange_ends {post : Except FileFault Unit → Disk → Prop} (granted : post (.ok ()) disk)
    (refused : post (.error (.os ⟨.denied, some path.text⟩)) disk) :
    Ends (checkChange location path) disk post := by
  unfold checkChange
  rw [Ends.bind_iff, Ends.get_iff, onward_ok]
  split
  · exact refused
  · exact granted

theorem makeDirectory_ends {post : Except FileFault Unit → Disk → Prop}
    (made : ∀ location, Path.hasNul path.text = false →
      disk.find .entry path = .ok (.vacant location) →
      post (.ok ()) (disk.withNew location .directory 0o777))
    (refused : ∀ fault, (∀ file, fault = .os ⟨.notFound, file⟩ →
      disk.find .entry path = .error .notFound) → post (.error fault) disk) :
    Ends (makeDirectory path) disk post := by
  unfold makeDirectory
  rw [Ends.bind_iff]
  refine seek_ends (fun found free reached => ?_) (fun cause reached => ?_) fun _ => ?_
  · rw [onward_ok]
    cases found with
    | vacant location =>
      dsimp only
      rw [Ends.bind_iff]
      refine checkChange_ends ?_ (refused _ (by rintro file ⟨⟩))
      exact made location free reached
    | entry location entry => exact refused _ (by rintro file ⟨⟩)
  · refine refused _ ?_
    rintro file ⟨⟩
    exact reached
  · exact refused _ (by rintro file ⟨⟩)

theorem probe_ends {post : Except FileFault (Option (Location × Entry)) → Disk → Prop}
    (there : ∀ location entry, disk.find .look path = .ok (.entry location entry) →
      post (.ok (some (location, entry))) disk)
    (absent : post (.ok none) disk) (refused : ∀ refusal, post (.error (.os refusal)) disk) :
    Ends (probe path) disk post := by
  unfold probe
  split
  · exact absent
  · rw [Ends.bind_iff, Ends.get_iff, onward_ok]
    split
    · next location entry reached => exact there location entry reached
    · exact absent
    · split
      · exact absent
      · exact refused _

theorem probe_of_found {post : Except FileFault (Option (Location × Entry)) → Disk → Prop}
    (free : Path.hasNul path.text = false)
    (there : disk.find .look path = .ok (.entry location entry)) :
    Ends (probe path) disk post ↔ post (.ok (some (location, entry))) disk := by
  unfold probe
  rw [if_neg (by simp [free]), Ends.bind_iff, Ends.get_iff, onward_ok, there]
  rfl

theorem isDirectory_ends {post : Except FileFault Bool → Disk → Prop}
    (yes : ∀ location, disk.find .look path = .ok (.entry location .directory) →
      post (.ok true) disk)
    (no : post (.ok false) disk) (refused : ∀ refusal, post (.error (.os refusal)) disk) :
    Ends (isDirectory path) disk post := by
  unfold isDirectory
  rw [Ends.bind_iff]
  refine probe_ends (fun location entry reached => ?_) no refused
  cases entry with
  | directory => exact yes location reached
  | _ => exact no

theorem openForWriting_ends {post : Except FileFault (Location × Content) → Disk → Prop}
    (opened : ∀ found content, Path.hasNul path.text = false →
      disk.find .write path = .ok found →
      (∀ location entry, found = .entry location entry → entry = .file content ∨ entry = .sink) →
      post (.ok (found.location, content)) disk)
    (refused : ∀ fault, IsRefusal path fault → post (.error fault) disk) :
    Ends (openForWriting path) disk post := by
  unfold openForWriting
  rw [Ends.bind_iff]
  refine seek_ends (fun found free reached => ?_) (fun cause _ => ?_) fun nul => ?_
  · rw [onward_ok]
    cases found with
    | vacant location => exact opened (.vacant location) _ free reached (by rintro _ _ ⟨⟩)
    | entry location entry =>
      cases entry with
      | file content =>
        refine opened (.entry location (.file content)) _ free reached ?_
        rintro _ _ ⟨⟩
        exact .inl rfl
      | sink =>
        refine opened (.entry location .sink) _ free reached ?_
        rintro _ _ ⟨⟩
        exact .inr rfl
      | directory => exact refused _ (.of_os _)
      | link target => exact refused _ (.of_os _)
      | program => exact refused _ (.of_os _)
  · exact refused _ (.of_os _)
  · exact refused _ fun free => absurd nul (by simp [free])

theorem putFile_ends {post : Except FileFault Unit → Disk → Prop}
    (made : ∀ mode, disk.tree.get? location = none →
      post (.ok ()) (disk.withNew location (.file content) mode))
    (device : disk.tree.get? location = some .sink → post (.ok ()) disk)
    (changed : disk.tree.get? location ≠ none → disk.tree.get? location ≠ some .sink →
      post (.ok ()) (disk.withEntry location (.file content))) :
    Ends (putFile location content) disk post := by
  unfold putFile
  rw [Ends.bind_iff, Ends.get_iff, onward_ok]
  split
  · next vacant => exact made _ vacant
  · next sink => exact device sink
  · next entry other held => exact changed (by simp [held]) (by simpa [held] using other)

theorem removeFile_ends {post : Except FileFault Unit → Disk → Prop}
    (removed : ∀ location entry, disk.find .entry path = .ok (.entry location entry) →
      entry ≠ .directory → post (.ok ()) (disk.without location))
    (refused : ∀ fault, IsRefusal path fault → post (.error fault) disk) :
    Ends (removeFile path) disk post := by
  unfold removeFile
  rw [Ends.bind_iff]
  refine checkName_ends (fun _ => ?_) fun nul => ?_
  · rw [onward_ok, Ends.bind_iff, Ends.get_iff, onward_ok]
    split
    · exact refused _ (.of_os _)
    · rw [Ends.bind_iff]
      refine seek_ends (fun found _ reached => ?_) (fun _ _ => refused _ (.of_os _)) fun nul => ?_
      · rw [onward_ok]
        cases found with
        | vacant location => exact refused _ (.of_os _)
        | entry location entry =>
          dsimp only
          rw [Ends.bind_iff]
          refine checkChange_ends ?_ (refused _ (.of_os _))
          rw [onward_ok]
          split
          · exact refused _ (.of_os _)
          · next file =>
            refine removed location entry reached ?_
            rintro rfl
            exact file rfl
      · exact refused _ fun free => absurd nul (by simp [free])
  · exact refused _ fun free => absurd nul (by simp [free])

theorem removeDirectory_ends {post : Except FileFault Unit → Disk → Prop}
    (removed : ∀ location, disk.find .entry path = .ok (.entry location .directory) →
      disk.tree.children location = [] → post (.ok ()) (disk.without location))
    (refused : ∀ fault, IsRefusal path fault → post (.error fault) disk) :
    Ends (removeDirectory path) disk post := by
  unfold removeDirectory
  rw [Ends.bind_iff]
  refine seek_ends (fun found free reached => ?_) (fun cause _ => ?_) fun nul => ?_
  · rw [onward_ok]
    cases found with
    | vacant location => exact refused _ (.of_os _)
    | entry location entry =>
      cases entry with
      | directory =>
        have last : Ends (do
            let disk ← get
            if disk.tree.children location != [] || path.name == ".." then refuse .notEmpty path
            else erase location) disk post := by
          rw [Ends.bind_iff, Ends.get_iff, onward_ok]
          split
          · exact refused _ (.of_os _)
          · next empty =>
            simp only [Bool.or_eq_true, bne_iff_ne, not_or, Decidable.not_not] at empty
            exact removed location reached empty.1
        dsimp only
        split
        · exact refused _ (.of_os _)
        · split
          · rw [Ends.bind_iff]
            exact checkChange_ends last (refused _ (.of_os _))
          · exact last
      | _ => exact refused _ (.of_os _)
  · exact refused _ (.of_os _)
  · exact refused _ fun free => absurd nul (by simp [free])

end Rules
end Disk
end JavaStubs

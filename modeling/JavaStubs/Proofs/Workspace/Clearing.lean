import JavaStubs.Proofs.Workspace.Inside
import JavaStubs.Workspace

/-!
How a workspace is cleared away. `clear` changes nothing outside of the directory that it is run on,
whatever was left there, and if no removal is refused, `release` leaves nothing of the workspace.
-/
namespace JavaStubs

theorem Location.IsBelow.up {directory location : Location} {name : String}
    (below : Location.IsBelow (name :: directory) location) : directory.IsBelow location := by
  obtain ⟨⟨front, rfl⟩, -⟩ := below
  refine ⟨⟨front ++ [name], by simp⟩, fun same => ?_⟩
  have lengths := congrArg List.length same
  simp at lengths
  omega

theorem Location.isBelow_cons (name : String) (directory : Location) :
    directory.IsBelow (name :: directory) :=
  ⟨List.suffix_cons name directory, by simp⟩

theorem Location.not_isBelow_self (directory : Location) : ¬ directory.IsBelow directory :=
  fun below => below.2 rfl

/-- What lies in a directory that something else lies in too is not below that. -/
theorem Location.suffix_beside {name other : String} {directory : Location}
    (within : name :: directory <:+ other :: directory) : other = name := by
  have same := within.eq_of_length (by simp)
  exact (List.cons.inj same).1.symm

/-- What lies beside a directory does not lie below it. -/
theorem Location.not_isBelow_beside {name other : String} {directory : Location} :
    ¬ Location.IsBelow (name :: directory) (other :: directory) :=
  fun inside => inside.2 (by rw [suffix_beside inside.1])

/-- A tree in which a location is vacant has nothing below it. -/
theorem FileTree.IsTree.vacant_within {tree : FileTree} {top location : Location} (root : tree.IsTree)
    (vacant : tree.get? top = none) (within : top <:+ location) : tree.get? location = none := by
  obtain ⟨names, rfl⟩ := within
  induction names with
  | nil => exact vacant
  | cons name names ih => exact root.vacant_below (by simp [ih]) name

theorem Location.not_suffix_above (name : String) (directory : Location) : ¬ name :: directory <:+ directory := by
  intro within
  have lengths := within.length_le
  rw [List.length_cons] at lengths
  omega

theorem Location.isBelow_iff {directory location : Location} :
    directory.IsBelow location ↔ ∃ name, name :: directory <:+ location := by
  refine ⟨fun below => ?_, fun ⟨name, within⟩ => ⟨(List.suffix_cons name directory).trans within, ?_⟩⟩
  · obtain ⟨⟨front, rfl⟩, different⟩ := below
    obtain ⟨names, name, rfl⟩ := (List.eq_nil_or_concat front).resolve_left fun none => different (by simp [none])
    exact ⟨name, names, by simp⟩
  · rintro rfl
    exact not_suffix_above name _ within

theorem FileTree.IsTree.vacant_isBelow {tree : FileTree} {location other : Location} (root : tree.IsTree)
    (none_here : tree.get? location ≠ some .directory) (below : location.IsBelow other) :
    tree.get? other = none := by
  obtain ⟨name, within⟩ := Location.isBelow_iff.mp below
  exact root.vacant_within (root.vacant_below none_here name) within

namespace Workspace

open Disk (SameBut StaysBelow SameAt LeadsInto IsRefusal)
open FileTree (IsTree Purpose Found)

variable {disk before after : Disk} {path workspace : Path} {name : String}
  {location directory top : Location} {purpose : Purpose}

/-- Whatever changes below a location, a path leads into no other directory than that. -/
def OnlyInto (disk : Disk) (path : Path) (location : Location) : Prop :=
  ∀ after, SameBut location.IsBelow disk after →
    ∀ place, after.LeadsInto path place → place = location

theorem OnlyInto.still (only : OnlyInto before path location)
    (same : SameBut location.IsBelow before after) : OnlyInto after path location :=
  fun later also => only later (same.trans also)

theorem OnlyInto.here (only : OnlyInto disk path location) (leads : disk.LeadsInto path directory) :
    directory = location :=
  only disk (.refl disk) directory leads

theorem OnlyInto.child (only : OnlyInto disk path location) (named : Path.IsName name)
    (there : disk.tree.get? (name :: location) = some .directory) :
    OnlyInto disk (path.child name) (name :: location) := by
  intro after same place leads
  obtain ⟨directory, above, found⟩ := leads.of_child named
  obtain rfl := only after (same.mono fun _ below => below.up) directory above
  have still := (same (name :: directory) (Location.not_isBelow_self _)).1.trans there
  exact (found fun target link => by simp [still] at link).1

theorem OnlyInto.found_child {found : Found} (only : OnlyInto disk path location)
    (named : Path.IsName name) (reached : disk.find .entry (path.child name) = .ok found) :
    found = disk.tree.found (name :: location) := by
  obtain ⟨directory, leads⟩ := Disk.leadsInto_of_find_child named reached
  obtain rfl := only.here leads
  exact Disk.found_of_find_child named leads (.inl rfl) reached

/-! ## Removals -/

theorem issueOf_upholds {job : FileJob Unit} {inv : Disk → Prop}
    (keeps : ∀ disk, inv disk → Ends job disk fun r after => inv after ∧
      ∀ fault, r = .error fault → ∃ refusal, fault = .os refusal) :
    Upholds (issueOf path job) inv := by
  intro disk holds
  unfold issueOf
  rw [Ends.tryCatch_iff, Ends.bind_iff]
  refine (keeps disk holds).mono fun r after ends => ?_
  obtain ⟨holds, refusal⟩ := ends
  cases r with
  | ok _ => exact ⟨⟨[], rfl⟩, holds⟩
  | error fault =>
    obtain ⟨fault, rfl⟩ := refusal fault rfl
    exact ⟨⟨_, rfl⟩, holds⟩

/-- Taking away an entry in which nothing lies. -/
private theorem clearing_without (clearing : StaysBelow location before disk)
    (below : ∀ other, disk.tree.get? (other :: name :: location) = none) :
    StaysBelow location before (disk.without (name :: location)) := by
  refine ⟨clearing.tree.erase (by simp) below, clearing.same.trans ?_⟩
  refine Disk.without_sameBut.mono ?_
  rintro _ rfl
  exact Location.isBelow_cons name location

section Removals
variable (only : OnlyInto before path location) (named : Path.IsName name)
  (free : Path.hasNul (path.child name).text = false)

private theorem entry_of_find {entry : Entry} (only : OnlyInto disk path location)
    (named : Path.IsName name)
    (reached : disk.find .entry (path.child name) = .ok (.entry directory entry)) :
    directory = name :: location ∧ disk.tree.get? (name :: location) = some entry := by
  have found := only.found_child named reached
  unfold FileTree.found at found
  split at found
  · cases found
  · next held =>
    cases found
    exact ⟨rfl, held⟩

include only named free

theorem removeFile_clearing (clearing : StaysBelow location before disk) :
    Ends (Disk.removeFile (path.child name)) disk fun r after => StaysBelow location before after ∧
      ∀ fault, r = .error fault → ∃ refusal, fault = .os refusal := by
  refine Disk.removeFile_ends (fun directory entry reached file => ?_) fun fault refusal => ?_
  · obtain ⟨rfl, held⟩ := entry_of_find (only.still clearing.same) named reached
    refine ⟨clearing_without clearing (clearing.tree.vacant_below ?_), nofun⟩
    rw [held]
    exact fun same => file (Option.some.inj same)
  · refine ⟨clearing, ?_⟩
    intro _ same
    cases same
    exact refusal free

theorem removeDirectory_clearing (clearing : StaysBelow location before disk) :
    Ends (removeDirectory (path.child name)) disk fun r after => StaysBelow location before after ∧
      ∀ fault, r = .error fault → ∃ refusal, fault = .os refusal := by
  unfold removeDirectory isLink
  rw [Ends.bind_iff, Ends.bind_iff, Ends.get_iff, onward_ok]
  have removed := removeFile_clearing only named free clearing
  split
  · exact removed
  · rw [Ends.pure_iff, onward_ok]
    refine Disk.removeDirectory_ends (fun directory reached empty => ?_) fun fault refusal => ?_
    · obtain ⟨rfl, held⟩ := entry_of_find (only.still clearing.same) named reached
      exact ⟨clearing_without clearing (FileTree.vacant_of_children empty), nofun⟩
    · refine ⟨clearing, ?_⟩
      intro _ same
      cases same
      exact refusal free

end Removals

/-! ## Clearing -/

theorem namesIn_ends {post : Except FileFault (List String × List String) → Disk → Prop}
    (named : ∀ files directories, (files ++ directories).Perm (disk.tree.children location) →
      (∀ name ∈ files, disk.tree.get? (name :: location) ≠ some .directory) →
      (∀ name ∈ directories, disk.tree.get? (name :: location) = some .directory ∨
        ∃ target, disk.tree.get? (name :: location) = some (.link target)) →
      post (.ok (files, directories)) disk) :
    Ends (namesIn path location) disk post := by
  unfold namesIn
  rw [Ends.bind_iff, Ends.get_iff, onward_ok]
  dsimp only
  rw [Ends.pure_iff, List.partition_eq_filter_filter]
  refine named _ _ ?_ (fun name member => ?_) fun name member => ?_
  · exact (List.filter_append_perm _ _).trans (List.reverse_perm _)
  · have kind := (List.mem_filter.mp member).2
    intro held
    simp [held, Entry.isDirectory] at kind
  · have kind := (List.mem_filter.mp member).2
    cases held : disk.tree.get? (name :: location) with
    | none => simp [held] at kind
    | some entry =>
      cases entry with
      | directory => exact .inl rfl
      | link target => exact .inr ⟨target, rfl⟩
      | _ => simp [held, Entry.isDirectory] at kind

private theorem issueOf_refuse_upholds (cause : OsCause) {inv : Disk → Prop} :
    Upholds (issueOf path (Disk.refuse cause path)) inv :=
  fun _ holds => ⟨⟨_, rfl⟩, holds⟩

/-- Clearing never raises a fault, and changes nothing outside of the directory. -/
theorem clear_upholds {fuel : Nat} (plain : path.IsPlain) (free : Path.hasNul path.text = false)
    (only : OnlyInto before path location) :
    Upholds (clear fuel path) (StaysBelow location before) := by
  induction fuel generalizing before path location with
  | zero => exact .pure []
  | succ fuel ih =>
    intro disk clearing
    unfold clear
    rw [Ends.bind_iff, Ends.get_iff, onward_ok]
    split
    · exact issueOf_refuse_upholds _ disk clearing
    · exact issueOf_refuse_upholds _ disk clearing
    · next place reached =>
      obtain rfl := (only.still clearing.same).here (.of_find reached)
      rw [Ends.bind_iff, Ends.get_iff, onward_ok]
      split
      · exact issueOf_refuse_upholds _ disk clearing
      · rw [Ends.bind_iff]
        refine namesIn_ends fun files directories parts _ _ => ?_
        rw [onward_ok]
        have known (name : String) (member : name ∈ files ∨ name ∈ directories) :
            Path.IsName name ∧ Path.hasNul (path.child name).text = false := by
          have inside := parts.mem_iff.mp (List.mem_append.mpr member)
          have there := FileTree.mem_children.mp inside
          obtain ⟨-, named, name_free⟩ := clearing.tree name place there
          exact ⟨named, by rw [Path.hasNul_child named, free, name_free]; rfl⟩
        have below : Upholds (directories.mapM fun name => do
            if (← get).tree.get? (name :: place) = some .directory then clear fuel (path.child name)
            else return []) (StaysBelow place before) := by
          refine .mapM fun name member middle clearing => ?_
          obtain ⟨named, child_free⟩ := known name (.inr member)
          rw [Ends.bind_iff, Ends.get_iff, onward_ok]
          split
          · next there =>
            have into := (only.still clearing.same).child named there
            have start : StaysBelow (name :: place) middle middle := ⟨clearing.tree, .refl middle⟩
            refine (ih (plain.child named) child_free into middle start).mono fun r after ends => ?_
            obtain ⟨success, tree, same⟩ := ends
            exact ⟨success, tree, clearing.same.trans (same.mono fun _ below => below.up)⟩
          · exact ⟨⟨[], rfl⟩, clearing⟩
        have first : Upholds (files.mapM fun name =>
            issueOf (path.child name) (Disk.removeFile (path.child name))) (StaysBelow place before) := by
          refine .mapM fun name member => issueOf_upholds fun middle clearing => ?_
          obtain ⟨named, child_free⟩ := known name (.inl member)
          exact removeFile_clearing only named child_free clearing
        have last : Upholds (directories.mapM fun name =>
            issueOf (path.child name) (removeDirectory (path.child name))) (StaysBelow place before) := by
          refine .mapM fun name member => issueOf_upholds fun middle clearing => ?_
          obtain ⟨named, child_free⟩ := known name (.inr member)
          exact removeDirectory_clearing only named child_free clearing
        exact below.bind (fun _ => first.bind fun _ => last.bind fun _ => .pure _) disk clearing
    · exact issueOf_refuse_upholds _ disk clearing

/-- What is left of a workspace when it has been cleared away: if nothing was refused, nothing. -/
structure Released (top : Location) (before : Disk) (issues : List CleanupIssue) (after : Disk) :
    Prop where
  tree : after.tree.IsTree
  same : SameBut (top <:+ ·) before after
  gone : issues = [] → after.tree.get? top = none

private theorem place_of_find (plain : path.IsPlain) (some_names : path.names ≠ [])
    (only : OnlyInto disk path location)
    (reached : disk.find .entry path = .ok (.entry directory .directory)) : directory = location := by
  obtain ⟨parent, name, rfl, -, named⟩ := plain.cases.resolve_left some_names
  exact only.here (.of_find_entry named reached)

theorem release_ends (root : disk.tree.IsTree) (plain : workspace.IsPlain)
    (free : Path.hasNul workspace.text = false)
    (there : disk.find .look workspace = .ok (.entry top .directory))
    (only : OnlyInto disk workspace top) (some_names : workspace.names ≠ [])
    (some_location : top ≠ []) :
    Ends (release workspace) disk fun r after =>
      ∃ issues, r = .ok issues ∧ Released top disk issues after := by
  unfold release
  rw [Ends.bind_iff, Disk.probe_of_found free there, onward_ok]
  dsimp only
  rw [Ends.bind_iff, Ends.get_iff, onward_ok, Ends.bind_iff]
  refine (clear_upholds plain free only disk ⟨root, .refl disk⟩).mono fun r middle ends => ?_
  obtain ⟨⟨issues, rfl⟩, tree, same⟩ := ends
  have within : SameBut (top <:+ ·) disk middle := same.mono fun _ below => below.1
  rw [onward_ok, Ends.bind_iff]
  unfold issueOf
  rw [Ends.tryCatch_iff, Ends.bind_iff]
  refine Disk.removeDirectory_ends (fun place reached empty => ?_) fun fault refusal => ?_
  · obtain rfl := place_of_find plain some_names (only.still same) reached
    have below := FileTree.vacant_of_children empty
    refine ⟨issues ++ [], rfl, tree.erase some_location below, within.trans ?_, fun _ => ?_⟩
    · refine Disk.without_sameBut.mono ?_
      rintro _ rfl
      exact List.suffix_rfl
    · exact (FileTree.get?_erase _ _ some_location).trans (if_pos rfl)
  · obtain ⟨fault, rfl⟩ := refusal free
    exact ⟨issues ++ [⟨workspace, fault.message⟩], rfl, tree, within, by simp⟩

end Workspace
end JavaStubs

import Mathlib.Data.List.Perm.Subperm
import JavaStubs.Proofs.Files.Removing
import JavaStubs.Proofs.Workspace.Clearing

/-!
What is left of a workspace. A workspace is released from the bottom up, and each entry in it is removed
unless its removal is refused. What is left are the entries whose removal is refused whatever happens to the
others, and the directories that such an entry lies in; each of them is told once, and all else is gone.
-/
namespace JavaStubs

/-- What lies in a tree lies no deeper in it than the tree has entries. -/
theorem FileTree.IsTree.length_le {tree : FileTree} {location : Location} (root : tree.IsTree)
    (there : tree.get? location ≠ none) : location.length ≤ tree.entries.length := by
  -- the location and those above it have entries, and they are as many as it has names
  have above : (List.range location.length).map location.drop ⊆ tree.entries.map Prod.fst := by
    intro place member
    obtain ⟨count, below, rfl⟩ := List.mem_map.mp member
    refine mem_locations (fun none => ?_) fun vacant => there (root.vacant_within vacant (List.drop_suffix _ _))
    have long := List.drop_eq_nil_iff.mp none
    simp only [List.mem_range] at below
    omega
  have distinct : ((List.range location.length).map location.drop).Nodup := by
    refine List.Nodup.map_on (fun first one second two same => ?_) List.nodup_range
    have lengths := congrArg List.length same
    simp only [List.length_drop] at lengths
    simp only [List.mem_range] at one two
    omega
  simpa using (List.subperm_of_subset distinct above).length_le

namespace Workspace

open Disk (SameBut SameAt LeadsInto)

/-- The path of a way on from a base; the innermost name of the way is the first. -/
def along (base : Path) (way : Location) : Path := Disk.pathBelow base way.reverse

@[simp] theorem along_nil (base : Path) : along base [] = base := rfl

theorem along_cons (base : Path) (name : String) (way : Location) :
    along base (name :: way) = (along base way).child name := by
  rw [along, List.reverse_cons, Disk.pathBelow_concat]
  rfl

section Spec
variable (disk : Disk) (workspace : Path) (top : Location)

/-- The removal of an entry is refused whatever happens to the others: there is no right to change the
directory that it lies in, or it is no directory and it is stuck by its name or its path is too long. -/
def IsHeld (way : Location) : Prop :=
  ∃ entry, disk.tree.get? (way ++ top) = some entry ∧
    (disk.mayChange (way ++ top) = false ∨
      entry ≠ .directory ∧ ((along workspace way).name ∈ disk.stuck ∨ ¬ (along workspace way).IsShort))

/-- An entry stays, since it is held or one that lies in it is. -/
def IsLeft (way : Location) : Prop := ∃ inner, way <:+ inner ∧ IsHeld disk workspace top inner

/-- A location is among those that a part of the clearing is to make vacant. -/
def IsCleared (done : Location → Prop) (location : Location) : Prop :=
  ∃ way, location = way ++ top ∧ done way ∧ ¬ IsLeft disk workspace top way

/-- How far a workspace has been cleared: of the entries that were looked at, those that stay are there as
they were and the others are gone. -/
structure Swept (done : Location → Prop) (after : Disk) : Prop where
  tree : after.tree.IsTree
  distinct : after.tree.Distinct
  stuck : after.stuck = disk.stuck
  here : after.here = disk.here
  same : SameBut (IsCleared disk workspace top done) disk after
  gone : ∀ way, done way → ¬ IsLeft disk workspace top way → after.tree.get? (way ++ top) = none

/-- The issues with a part of a workspace name what is left of it, each entry once. -/
def Tells (region : Location → Prop) (issues : List CleanupIssue) : Prop :=
  ∃ ways : List Location, ways.Nodup ∧ (∀ way, way ∈ ways ↔ region way ∧ IsLeft disk workspace top way) ∧
    issues.map CleanupIssue.path = ways.map (along workspace)

/-- A job that is run when some entries were looked at looks at others, and tells which of them are left. -/
def Sweeps (job : FileJob (List CleanupIssue)) (done region : Location → Prop) : Prop :=
  ∀ after, Swept disk workspace top done after → Ends job after fun r last =>
    ∃ issues, r = .ok issues ∧ Swept disk workspace top (fun way => done way ∨ region way) last ∧
      Tells disk workspace top region issues

end Spec

/-- Whatever changes below a location, a path leads into a directory. -/
def StaysInto (disk : Disk) (path : Path) (directory top : Location) : Prop :=
  ∀ after, after.here = disk.here → SameBut top.IsBelow disk after → after.LeadsInto path directory

/-- A directory that can be looked through by way of a path: the path does not lead through the directory
itself, and all the directories in it can be listed and entered, by paths that are not too long. -/
structure Clearable (disk : Disk) (parent : Path) (name : String) (directory : Location) : Prop where
  root : disk.tree.IsTree
  distinct : disk.tree.Distinct
  named : Path.IsName name
  free : Path.hasNul (parent.child name).text = false
  there : disk.find .entry (parent.child name) = .ok (.entry (name :: directory) .directory)
  stays : StaysInto disk parent directory (name :: directory)
  listed : ∀ way, disk.tree.get? (way ++ name :: directory) = some .directory →
    disk.grants .read (way ++ name :: directory) = true ∧ disk.enters (way ++ name :: directory) = true ∧
      (along (parent.child name) way).IsShort

variable {disk after : Disk} {workspace parent : Path} {name : String} {top directory way inner : Location}
  {done region : Location → Prop} {entry : Entry}

/-! ## What is left -/

theorem IsHeld.isLeft (held : IsHeld disk workspace top way) : IsLeft disk workspace top way :=
  ⟨way, List.suffix_rfl, held⟩

theorem IsLeft.up (left : IsLeft disk workspace top inner) (within : way <:+ inner) :
    IsLeft disk workspace top way := by
  obtain ⟨other, inside, held⟩ := left
  exact ⟨other, within.trans inside, held⟩

theorem suffix_append_of_suffix (within : way <:+ inner) (top : Location) : way ++ top <:+ inner ++ top := by
  obtain ⟨front, rfl⟩ := within
  exact ⟨front, by simp⟩

theorem IsLeft.there (left : IsLeft disk workspace top way) (root : disk.tree.IsTree) :
    disk.tree.get? (way ++ top) ≠ none := by
  obtain ⟨inner, within, entry, held, -⟩ := left
  intro vacant
  rw [root.vacant_within vacant (suffix_append_of_suffix within top)] at held
  cases held

/-- Nothing lies in what is no directory. -/
theorem vacant_inside (root : disk.tree.IsTree) (file : disk.tree.get? (way ++ top) ≠ some .directory)
    (below : way.IsBelow inner) : disk.tree.get? (inner ++ top) = none :=
  root.vacant_isBelow file ⟨suffix_append_of_suffix below.1 top, fun same =>
    below.2 (List.append_cancel_right same)⟩

/-- What is no directory is left only if it is held itself. -/
theorem isLeft_iff_of_file (root : disk.tree.IsTree) (held : disk.tree.get? (way ++ top) = some entry)
    (file : entry ≠ .directory) : IsLeft disk workspace top way ↔ IsHeld disk workspace top way := by
  refine ⟨fun ⟨inner, within, other, there, cause⟩ => ?_, IsHeld.isLeft⟩
  by_cases same : inner = way
  · subst same
    exact ⟨other, there, cause⟩
  · rw [vacant_inside root (by simp [held, file]) ⟨within, same⟩] at there
    cases there

theorem isLeft_iff_of_directory (held : disk.tree.get? (way ++ top) = some .directory) :
    IsLeft disk workspace top way ↔
      disk.mayChange (way ++ top) = false ∨ ∃ name, IsLeft disk workspace top (name :: way) := by
  constructor
  · rintro ⟨inner, within, also⟩
    by_cases same : inner = way
    · subst same
      obtain ⟨entry, there, cause⟩ := also
      refine .inl (cause.resolve_right fun file => file.1 ?_)
      exact Option.some.inj (there.symm.trans held)
    · obtain ⟨name, inside⟩ := Location.isBelow_iff.mp ⟨within, same⟩
      exact .inr ⟨name, inner, inside, also⟩
  · rintro (denied | ⟨name, left⟩)
    · exact IsHeld.isLeft ⟨.directory, held, .inl denied⟩
    · exact left.up (List.suffix_cons name way)

/-! ## What has been cleared -/

namespace Swept

variable (swept : Swept disk workspace top done after)

include swept

theorem sameAt (way : Location) (fresh : ¬ done way ∨ IsLeft disk workspace top way) :
    SameAt disk after (way ++ top) := by
  refine swept.same _ fun ⟨other, same, looked, gone⟩ => ?_
  obtain rfl := List.append_cancel_right same
  exact fresh.elim (fun new => new looked) gone

theorem sameAt_outside {location : Location} (outside : ¬ top <:+ location) : SameAt disk after location := by
  refine swept.same location fun ⟨way, same, _⟩ => outside ?_
  exact same ▸ List.suffix_append way top

theorem vacant (nothing : disk.tree.get? (way ++ top) = none) : after.tree.get? (way ++ top) = none := by
  by_cases looked : done way ∧ ¬ IsLeft disk workspace top way
  · exact swept.gone way looked.1 looked.2
  · rw [not_and_or, not_not] at looked
    exact (swept.sameAt way looked).1.trans nothing

/-- Where all that lay in a directory was looked at, there is in it what is left. -/
theorem child_iff (root : disk.tree.IsTree)
    (below : ∀ other, way.IsBelow other → disk.tree.get? (other ++ top) ≠ none → done other) (name : String) :
    after.tree.get? (name :: (way ++ top)) ≠ none ↔ IsLeft disk workspace top (name :: way) := by
  constructor
  · intro still
    refine Classical.byContradiction fun taken => still ?_
    by_cases there : disk.tree.get? ((name :: way) ++ top) = none
    · exact swept.vacant there
    · exact swept.gone (name :: way) (below _ (Location.isBelow_cons name way) there) taken
  · intro left
    have same := (swept.sameAt (name :: way) (.inr left)).1
    exact fun vacant => left.there root (same.symm.trans vacant)

theorem mono {more : Location → Prop} (looked : ∀ way, done way → more way)
    (only : ∀ way, more way → disk.tree.get? (way ++ top) ≠ none → done way) :
    Swept disk workspace top more after := by
  refine ⟨swept.tree, swept.distinct, swept.stuck, swept.here, swept.same.mono ?_, fun way extra taken => ?_⟩
  · rintro location ⟨way, same, old, taken⟩
    exact ⟨way, same, looked way old, taken⟩
  · by_cases there : disk.tree.get? (way ++ top) = none
    · exact swept.vacant there
    · exact swept.gone way (only way extra there) taken

end Swept

theorem Tells.mono {issues : List CleanupIssue} {more : Location → Prop} (root : disk.tree.IsTree)
    (tells : Tells disk workspace top region issues) (looked : ∀ way, region way → more way)
    (only : ∀ way, more way → disk.tree.get? (way ++ top) ≠ none → region way) :
    Tells disk workspace top more issues := by
  obtain ⟨ways, distinct, members, told⟩ := tells
  refine ⟨ways, distinct, fun way => ?_, told⟩
  rw [members way]
  exact ⟨fun ⟨old, left⟩ => ⟨looked way old, left⟩, fun ⟨new, left⟩ => ⟨only way new (left.there root), left⟩⟩

theorem Tells.nil (nothing : ∀ way, region way → disk.tree.get? (way ++ top) = none)
    (root : disk.tree.IsTree) : Tells disk workspace top region [] :=
  ⟨[], .nil, fun way => ⟨nofun, fun ⟨inside, left⟩ => absurd (nothing way inside) (left.there root)⟩, rfl⟩

theorem Tells.append {issues more : List CleanupIssue} {others : Location → Prop}
    (tells : Tells disk workspace top region issues) (also : Tells disk workspace top others more)
    (apart : ∀ way, region way → ¬ others way) :
    Tells disk workspace top (fun way => region way ∨ others way) (issues ++ more) := by
  obtain ⟨ways, distinct, members, told⟩ := tells
  obtain ⟨next, next_distinct, next_members, next_told⟩ := also
  refine ⟨ways ++ next, ?_, fun way => ?_, by rw [List.map_append, List.map_append, told, next_told]⟩
  · refine List.nodup_append'.mpr ⟨distinct, next_distinct, fun way first second => ?_⟩
    exact apart way ((members way).mp first).1 ((next_members way).mp second).1
  · rw [List.mem_append, members, next_members, or_and_right]

/-! ## Steps -/

/-- An entry that is left was looked at. -/
theorem Swept.keep (swept : Swept disk workspace top done after) (left : IsLeft disk workspace top way) :
    Swept disk workspace top (fun other => done other ∨ other = way) after := by
  refine ⟨swept.tree, swept.distinct, swept.stuck, swept.here, swept.same.mono ?_, ?_⟩
  · rintro location ⟨other, same, looked, taken⟩
    exact ⟨other, same, .inl looked, taken⟩
  · rintro other (looked | rfl) taken
    · exact swept.gone other looked taken
    · exact absurd left taken

/-- An entry in which nothing is left was removed. -/
theorem Swept.remove (swept : Swept disk workspace top done after) (some_location : way ++ top ≠ [])
    (empty : ∀ name, after.tree.get? (name :: (way ++ top)) = none) (taken : ¬ IsLeft disk workspace top way) :
    Swept disk workspace top (fun other => done other ∨ other = way) (after.without (way ++ top)) := by
  refine ⟨swept.tree.erase some_location empty, swept.distinct.erase _, swept.stuck, swept.here, ?_, ?_⟩
  · intro location kept
    have different : location ≠ way ++ top := fun same => kept ⟨way, same, .inr rfl, taken⟩
    refine (swept.same location fun cleared => kept ?_).trans (Disk.without_sameBut location different)
    obtain ⟨other, same, looked, gone⟩ := cleared
    exact ⟨other, same, .inl looked, gone⟩
  · intro other looked gone
    by_cases same : other = way
    · subst same
      exact (FileTree.get?_erase _ _ some_location).trans (if_pos rfl)
    · exact (FileTree.get?_erase_of_ne fun equal => same (List.append_cancel_right equal)).trans
        (swept.gone other (looked.resolve_right same) gone)

/-- An entry that is looked at is left and told, or it is removed. -/
theorem issueOf_sweeps {job : FileJob Unit} (root : disk.tree.IsTree) (some_location : way ++ top ≠ [])
    (below : ∀ other, way.IsBelow other → disk.tree.get? (other ++ top) ≠ none → done other)
    (removal : ∀ after, Swept disk workspace top done after →
      Ends job after (after.Removal (way ++ top) (IsLeft disk workspace top way))) :
    Sweeps disk workspace top (issueOf (along workspace way) job) done (· = way) := by
  intro after swept
  unfold issueOf
  rw [Ends.tryCatch_iff, Ends.bind_iff]
  refine (removal after swept).mono fun r last outcome => ?_
  obtain ⟨left, ⟨fault, rfl⟩, rfl⟩ | ⟨taken, rfl, rfl⟩ := outcome
  · refine ⟨[⟨_, fault.message⟩], rfl, swept.keep left, [way], List.nodup_singleton way, fun other => ?_, rfl⟩
    rw [List.mem_singleton]
    exact ⟨fun same => ⟨same, same ▸ left⟩, fun member => member.1⟩
  · have empty (name : String) : after.tree.get? (name :: (way ++ top)) = none :=
      Decidable.byContradiction fun still =>
        taken (((swept.child_iff root below name).mp still).up (List.suffix_cons name way))
    refine ⟨[], rfl, swept.remove some_location empty taken, [], .nil, fun other => ⟨nofun, ?_⟩, rfl⟩
    rintro ⟨rfl, left⟩
    exact absurd left taken

/-- A job that gives lists of issues, where it is one that looks at entries when they are put together. -/
theorem Sweeps.lists {job : FileJob (List (List CleanupIssue))}
    {post : Except FileFault (List (List CleanupIssue)) → Disk → Prop}
    (sweeps : Sweeps disk workspace top (List.flatten <$> job) done region) (after : Disk)
    (swept : Swept disk workspace top done after)
    (next : ∀ lists last, Swept disk workspace top (fun way => done way ∨ region way) last →
      Tells disk workspace top region lists.flatten → post (.ok lists) last) : Ends job after post := by
  have ends := sweeps after swept
  rw [Ends.map_iff] at ends
  refine ends.mono fun r last ends => ?_
  obtain ⟨issues, same, swept, tells⟩ := ends
  cases r with
  | error fault => cases same
  | ok lists =>
    obtain rfl := Except.ok.inj same
    exact next lists last swept tells

/-- Jobs for names whose entries are apart: each may find the others' entries looked at or not. -/
theorem mapM_sweeps {names : List String} {job : String → FileJob (List CleanupIssue)}
    {regions : String → Location → Prop} (root : disk.tree.IsTree) (distinct : names.Nodup)
    (apart : ∀ name other, name ≠ other → ∀ way, regions name way → ¬ regions other way)
    (each : ∀ name ∈ names, ∀ so_far : Location → Prop,
      (∀ way, so_far way → done way ∨ ∃ other ∈ names, other ≠ name ∧ regions other way) →
      (∀ way, done way → so_far way) → Sweeps disk workspace top (job name) so_far (regions name)) :
    Sweeps disk workspace top (List.flatten <$> names.mapM job) done
      (fun way => ∃ name ∈ names, regions name way) := by
  induction names generalizing done with
  | nil =>
    intro after swept
    rw [Ends.map_iff, List.mapM_nil, Ends.pure_iff]
    refine ⟨[], rfl, swept.mono (fun way => .inl) fun way looked _ => ?_, .nil (by simp) root⟩
    simpa using looked
  | cons name rest ih =>
    obtain ⟨new, distinct⟩ := List.nodup_cons.mp distinct
    intro after swept
    rw [Ends.map_iff, List.mapM_cons, Ends.bind_iff]
    have first := each name List.mem_cons_self done (fun way => .inl) (fun way => id)
    refine (first after swept).mono fun r middle ends => ?_
    obtain ⟨issues, rfl, swept, tells⟩ := ends
    rw [onward_ok, Ends.bind_iff]
    have others : Sweeps disk workspace top (List.flatten <$> rest.mapM job)
        (fun way => done way ∨ regions name way) fun way => ∃ other ∈ rest, regions other way := by
      refine ih distinct fun other member so_far looked old => ?_
      refine each other (List.mem_cons_of_mem name member) so_far (fun way inside => ?_) fun way inside =>
        old way (.inl inside)
      rcases looked way inside with (inside | inside) | ⟨third, also, different, inside⟩
      · exact .inl inside
      · exact .inr ⟨name, List.mem_cons_self, fun same => new (same ▸ member), inside⟩
      · exact .inr ⟨third, List.mem_cons_of_mem name also, different, inside⟩
    refine others.lists middle swept fun lists last swept also => ?_
    rw [onward_ok, Ends.pure_iff]
    refine ⟨issues ++ lists.flatten, rfl, ?_, ?_⟩
    · simpa only [List.mem_cons, exists_eq_or_imp, or_assoc] using swept
    · simp only [List.mem_cons, exists_eq_or_imp]
      refine tells.append also fun way inside looked => ?_
      obtain ⟨other, member, also⟩ := looked
      exact apart name other (fun same => new (same ▸ member)) way inside also

/-! ## Entries -/

theorem Swept.mayChange (swept : Swept disk workspace (name :: directory) done after)
    (fresh : ∀ other, other <:+ way → ¬ done other) :
    after.mayChange (way ++ name :: directory) = disk.mayChange (way ++ name :: directory) := by
  cases way with
  | nil => exact SameAt.grants .write (swept.sameAt_outside (Location.not_suffix_above name directory))
  | cons last outer =>
    have above := swept.sameAt outer (.inl (fresh outer (List.suffix_cons last outer)))
    exact SameAt.grants .write above

section Entries
variable (clearable : Clearable disk parent name directory)

include clearable

theorem Clearable.is_there : disk.tree.get? (name :: directory) = some .directory ∧
    disk.enters directory = true ∧ (parent.child name).IsShort := by
  obtain ⟨place, leads, entered, short, found⟩ := Disk.exists_of_find_child clearable.named clearable.there
  obtain rfl := leads.unique (clearable.stays disk rfl (.refl disk))
  refine ⟨?_, entered, Disk.fits_of_find clearable.there, by rwa [Path.child_name_eq clearable.named]⟩
  unfold FileTree.found at found
  split at found
  · cases found
  · next held =>
    cases found
    exact held

variable (swept : Swept disk (parent.child name) (name :: directory) done after)
  (fresh : ∀ other, other <:+ way → ¬ done other)

include swept fresh

/-- As long as nothing above an entry was looked at, its path leads to it. -/
theorem Swept.locates (there : disk.tree.get? (way ++ name :: directory) ≠ none) :
    after.Locates (along (parent.child name) way) (way ++ name :: directory) := by
  induction way with
  | nil =>
    have below : SameBut (Location.IsBelow (name :: directory)) disk after := by
      refine swept.same.mono ?_
      rintro location ⟨way, rfl, looked, -⟩
      refine ⟨List.suffix_append way _, fun same => fresh way ?_ looked⟩
      simp [List.append_left_eq_self.mp same]
    refine .child clearable.named (clearable.stays after swept.here below) ?_ clearable.free
    have outside := swept.sameAt_outside (Location.not_suffix_above name directory)
    exact outside.enters.trans clearable.is_there.2.1
  | cons last outer ih =>
    obtain ⟨above, named, free⟩ := clearable.root last (outer ++ name :: directory) there
    have within := List.suffix_cons last outer
    have locates := ih (fun other inside => fresh other (inside.trans within)) (by simp [above])
    have same := swept.sameAt outer (.inl (fresh outer within))
    obtain ⟨-, entered, short⟩ := clearable.listed outer above
    rw [along_cons, List.cons_append]
    refine .child named (locates.leadsInto (same.1.trans above) short) (same.enters.trans entered) ?_
    rw [Path.hasNul_child named, locates.free, free]
    rfl

theorem Swept.removeFile (held : disk.tree.get? (way ++ name :: directory) = some entry)
    (file : entry ≠ .directory) :
    Ends (Disk.removeFile (along (parent.child name) way)) after (after.Removal (way ++ name :: directory)
      (IsLeft disk (parent.child name) (name :: directory) way)) := by
  have locates := swept.locates clearable fresh (by simp [held])
  have still := (swept.sameAt way (.inl (fresh way List.suffix_rfl))).1.trans held
  refine (locates.removeFile still file).mono fun r last removal => removal.congr ?_
  rw [isLeft_iff_of_file clearable.root held file, swept.mayChange fresh, swept.stuck]
  simp [IsHeld, held, file]

theorem Swept.removeDirectory (held : disk.tree.get? (way ++ name :: directory) = some .directory)
    (below : ∀ other, way.IsBelow other → disk.tree.get? (other ++ name :: directory) ≠ none → done other) :
    Ends (Disk.removeDirectory (along (parent.child name) way)) after
      (after.Removal (way ++ name :: directory)
        (IsLeft disk (parent.child name) (name :: directory) way)) := by
  have locates := swept.locates clearable fresh (by simp [held])
  have still := (swept.sameAt way (.inl (fresh way List.suffix_rfl))).1.trans held
  obtain ⟨-, -, short⟩ := clearable.listed way held
  have full : after.tree.children (way ++ name :: directory) ≠ [] ↔
      ∃ last, IsLeft disk (parent.child name) (name :: directory) (last :: way) := by
    simp only [← swept.child_iff clearable.root below, ← FileTree.mem_children]
    exact ⟨List.exists_mem_of_ne_nil _, fun ⟨_, member⟩ => List.ne_nil_of_mem member⟩
  refine (locates.removeDirectory still short).mono fun r last removal => removal.congr ?_
  rw [isLeft_iff_of_directory held, swept.mayChange fresh, full]

/-- Among the directories, a link is removed as a file is. -/
theorem Swept.removeListed (held : disk.tree.get? (way ++ name :: directory) = some .directory ∨
      ∃ target, disk.tree.get? (way ++ name :: directory) = some (.link target))
    (below : ∀ other, way.IsBelow other → disk.tree.get? (other ++ name :: directory) ≠ none → done other) :
    Ends (Workspace.removeDirectory (along (parent.child name) way)) after
      (after.Removal (way ++ name :: directory)
        (IsLeft disk (parent.child name) (name :: directory) way)) := by
  have there : disk.tree.get? (way ++ name :: directory) ≠ none := by
    rcases held with held | ⟨target, held⟩ <;> simp [held]
  have locates := swept.locates clearable fresh there
  have same := (swept.sameAt way (.inl (fresh way List.suffix_rfl))).1
  unfold Workspace.removeDirectory isLink
  rw [Ends.bind_iff, Ends.bind_iff, Ends.get_iff, onward_ok]
  rcases held with held | ⟨target, held⟩
  · obtain ⟨-, -, short⟩ := clearable.listed way held
    rw [locates.find_of_isShort (by decide) short (same.trans held) (.inl rfl)]
    exact swept.removeDirectory clearable fresh held below
  · rw [locates.find (by decide) (.inl rfl)]
    by_cases short : (along (parent.child name) way).IsShort
    · rw [if_pos short, FileTree.found, same.trans held]
      exact swept.removeFile clearable fresh held (by simp)
    · rw [if_neg short]
      refine locates.removeDirectory_of_long short (IsHeld.isLeft ?_)
      exact ⟨_, held, .inr ⟨by simp, .inr short⟩⟩

end Entries

/-! ## Clearing -/

theorem Sweeps.mono {job : FileJob (List CleanupIssue)} {more : Location → Prop} (root : disk.tree.IsTree)
    (sweeps : Sweeps disk workspace top job done region) (looked : ∀ way, region way → more way)
    (only : ∀ way, more way → disk.tree.get? (way ++ top) ≠ none → region way) :
    Sweeps disk workspace top job done more := by
  intro after swept
  refine (sweeps after swept).mono fun r last ends => ?_
  obtain ⟨issues, same, swept, tells⟩ := ends
  refine ⟨issues, same, swept.mono (fun way => Or.imp_right (looked way)) fun way inside there => ?_,
    tells.mono root looked only⟩
  exact inside.imp_right fun new => only way new there

theorem pure_sweeps (root : disk.tree.IsTree)
    (nothing : ∀ way, region way → disk.tree.get? (way ++ top) = none) :
    Sweeps disk workspace top (pure []) done region := by
  intro after swept
  rw [Ends.pure_iff]
  refine ⟨[], rfl, swept.mono (fun way => .inl) fun way looked there => ?_, .nil nothing root⟩
  exact looked.resolve_right fun inside => there (nothing way inside)

theorem Sweeps.then {first second third : FileJob (List (List CleanupIssue))}
    {others rest : Location → Prop}
    (one : Sweeps disk workspace top (List.flatten <$> first) done region)
    (two : Sweeps disk workspace top (List.flatten <$> second) (fun way => done way ∨ region way) others)
    (three : Sweeps disk workspace top (List.flatten <$> third)
      (fun way => (done way ∨ region way) ∨ others way) rest)
    (apart : ∀ way, region way → ¬ others way) (apart_rest : ∀ way, region way ∨ others way → ¬ rest way) :
    Sweeps disk workspace top (do
        let below ← first
        let files ← second
        let directories ← third
        return (below ++ files ++ directories).flatten) done
      (fun way => (region way ∨ others way) ∨ rest way) := by
  intro after swept
  rw [Ends.bind_iff]
  refine one.lists after swept fun below middle swept tells => ?_
  rw [onward_ok, Ends.bind_iff]
  refine two.lists middle swept fun files later swept more => ?_
  rw [onward_ok, Ends.bind_iff]
  refine three.lists later swept fun directories last swept most => ?_
  rw [onward_ok, Ends.pure_iff]
  refine ⟨_, rfl, swept.mono (fun way => by grind) fun way looked _ => by grind, ?_⟩
  rw [List.flatten_append, List.flatten_append]
  exact (tells.append more apart).append most apart_rest

/-- What lies below the entries of some names in a directory. -/
def Under (names : List String) (way other : Location) : Prop :=
  ∃ last ∈ names, Location.IsBelow (last :: way) other

/-- The entries of some names in a directory. -/
def Beside (names : List String) (way other : Location) : Prop := ∃ last ∈ names, other = last :: way

theorem Beside.not_under {names others : List String} {other : Location} (beside : Beside names way other)
    (under : Under others way other) : False := by
  obtain ⟨last, -, rfl⟩ := beside
  obtain ⟨also, -, below⟩ := under
  exact below.2 (congrArg (· :: way) (Location.suffix_beside below.1))

/-- The names in a directory of a workspace, those of directories and links to directories apart. -/
structure IsListing (disk : Disk) (location : Location) (files directories : List String) : Prop where
  distinct : (files ++ directories).Nodup
  mem_iff : ∀ last, last ∈ files ∨ last ∈ directories ↔ disk.tree.get? (last :: location) ≠ none
  file : ∀ last ∈ files, disk.tree.get? (last :: location) ≠ some .directory
  directory : ∀ last ∈ directories, disk.tree.get? (last :: location) = some .directory ∨
    ∃ target, disk.tree.get? (last :: location) = some (.link target)

section Listing
variable {files directories : List String} {other : Location}

theorem IsListing.apart (listing : IsListing disk (way ++ top) files directories)
    (beside : Beside directories way other) : ¬ Beside files way other := by
  obtain ⟨last, member, rfl⟩ := beside
  rintro ⟨also, file, same⟩
  obtain ⟨-, -, disjoint⟩ := List.nodup_append'.mp listing.distinct
  exact disjoint file ((List.cons.inj same).1 ▸ member)

/-- Whatever is in a directory has a name there, or lies in a directory that has one. -/
theorem IsListing.covers (listing : IsListing disk (way ++ top) files directories) (root : disk.tree.IsTree)
    (below : way.IsBelow other) (there : disk.tree.get? (other ++ top) ≠ none) :
    (Under directories way other ∨ Beside files way other) ∨ Beside directories way other := by
  obtain ⟨last, within⟩ := Location.isBelow_iff.mp below
  have above : disk.tree.get? (last :: way ++ top) ≠ none := fun vacant =>
    there (root.vacant_within vacant (suffix_append_of_suffix within top))
  by_cases same : other = last :: way
  · exact ((listing.mem_iff last).mpr above).elim (fun member => .inl (.inr ⟨last, member, same⟩))
      fun member => .inr ⟨last, member, same⟩
  · -- something lies below the name, so it is that of a directory
    have held : disk.tree.get? (last :: way ++ top) = some .directory :=
      Classical.byContradiction fun file => there (vacant_inside root file ⟨within, same⟩)
    have member := ((listing.mem_iff last).mpr above).resolve_left fun file => listing.file last file held
    exact .inl (.inl ⟨last, member, within, same⟩)

theorem isBelow_of_covered
    (covered : (Under directories way other ∨ Beside files way other) ∨ Beside directories way other) :
    way.IsBelow other := by
  rcases covered with (⟨last, -, below⟩ | ⟨last, -, rfl⟩) | ⟨last, -, rfl⟩
  · exact below.up
  · exact Location.isBelow_cons last way
  · exact Location.isBelow_cons last way

end Listing

/-- As long as nothing in a directory was looked at, the names that are read there are those that were there
first. -/
theorem namesIn_lists {path : Path} (swept : Swept disk workspace top done after)
    (fresh : ∀ last, ¬ done (last :: way)) :
    Ends (namesIn path (way ++ top)) after fun r last => last = after ∧
      ∃ files directories, r = .ok (files, directories) ∧ IsListing disk (way ++ top) files directories := by
  have still (last : String) : after.tree.get? (last :: (way ++ top)) = disk.tree.get? (last :: (way ++ top)) :=
    (swept.sameAt (last :: way) (.inl (fresh last))).1
  refine namesIn_ends fun files directories parts file directory => ⟨rfl, files, directories, rfl, ?_⟩
  simp only [still] at file directory
  refine ⟨parts.nodup_iff.mpr (swept.distinct.nodup_children _), fun last => ?_, file, directory⟩
  rw [← still, ← FileTree.mem_children, ← parts.mem_iff, List.mem_append]

/-! ### The entries of a directory -/

section Phases
variable {names files directories : List String} {job : String → FileJob (List CleanupIssue)} {other : Location}

private theorem not_done_above {last : String} (fresh : ∀ other, other <:+ way ∨ way <:+ other → ¬ done other)
    (above : other <:+ last :: way) : ¬ done other := by
  rcases List.suffix_cons_iff.mp above with rfl | higher
  · exact fresh _ (.inr (List.suffix_cons last way))
  · exact fresh other (.inl higher)

/-- What lies below a name in a directory is longer than what leads to another one. -/
private theorem not_below_above {last also : String} (above : other <:+ last :: way) :
    ¬ Location.IsBelow (also :: way) other := by
  intro below
  exact below.2 (below.1.eq_of_length_le (by simpa using above.length_le)).symm

/-- Jobs for the directories in a directory, each of which looks at all that lies in its own. -/
theorem under_sweeps (root : disk.tree.IsTree) (distinct : names.Nodup)
    (fresh : ∀ other, other <:+ way ∨ way <:+ other → ¬ done other)
    (each : ∀ last ∈ names, ∀ so_far : Location → Prop,
      (∀ other, other <:+ last :: way ∨ last :: way <:+ other → ¬ so_far other) →
      Sweeps disk workspace top (job last) so_far (Location.IsBelow (last :: way))) :
    Sweeps disk workspace top (List.flatten <$> names.mapM job) done (Under names way) := by
  have apart (last also : String) (different : last ≠ also) (other : Location)
      (within : last :: way <:+ other) : ¬ also :: way <:+ other := by
    intro beside
    have same := List.suffix_of_suffix_length_le beside within (by simp)
    exact different (Location.suffix_beside same)
  refine mapM_sweeps root distinct (fun last also different other below beside =>
    apart last also different other below.1 beside.1) fun last member so_far looked _ => each last member so_far ?_
  intro other near before
  rcases looked other before with old | ⟨also, inside, different, below⟩
  · rcases near with above | within
    · exact not_done_above fresh above old
    · exact fresh other (.inr ((List.suffix_cons last way).trans within)) old
  · rcases near with above | within
    · exact not_below_above above below
    · exact apart also last different other below.1 within

/-- Jobs for what lies in a directory, each of which looks at its own entry. -/
theorem beside_sweeps (root : disk.tree.IsTree) (distinct : names.Nodup)
    (fresh : ∀ last ∈ names, ∀ other, other <:+ last :: way → ¬ done other)
    (each : ∀ last ∈ names, ∀ so_far : Location → Prop, (∀ other, other <:+ last :: way → ¬ so_far other) →
      (∀ other, done other → so_far other) → Sweeps disk workspace top (job last) so_far (· = last :: way)) :
    Sweeps disk workspace top (List.flatten <$> names.mapM job) done (Beside names way) := by
  refine mapM_sweeps root distinct ?_ fun last member so_far looked old => each last member so_far ?_ old
  · rintro last also different other rfl same
    exact different (List.cons.inj same).1
  · intro other above before
    rcases looked other before with old | ⟨also, -, different, rfl⟩
    · exact fresh last member other above old
    · exact different (Location.suffix_beside above).symm

variable (clearable : Clearable disk parent name directory)
  (listing : IsListing disk (way ++ name :: directory) files directories)
  (fresh : ∀ other, other <:+ way ∨ way <:+ other → ¬ done other)

include clearable listing fresh

theorem files_sweeps : Sweeps disk (parent.child name) (name :: directory)
    (List.flatten <$> files.mapM fun last => issueOf ((along (parent.child name) way).child last)
      (Disk.removeFile ((along (parent.child name) way).child last)))
    (fun other => done other ∨ Under directories way other) (Beside files way) := by
  have root := clearable.root
  have distinct := (List.nodup_append'.mp listing.distinct).1
  refine beside_sweeps root distinct (fun last member other above looked => ?_) fun last member so_far new _ => ?_
  · exact looked.elim (not_done_above fresh above) fun ⟨also, _, below⟩ => not_below_above above below
  obtain ⟨entry, held⟩ := Option.ne_none_iff_exists'.mp ((listing.mem_iff last).mp (.inl member))
  have file : entry ≠ .directory := fun same => listing.file last member (same ▸ held)
  rw [← along_cons]
  refine issueOf_sweeps root (by simp) (fun other below there => ?_) fun middle swept =>
    swept.removeFile clearable new held file
  exact absurd (vacant_inside root (by simp [held, file]) below) there

theorem directories_sweeps : Sweeps disk (parent.child name) (name :: directory)
    (List.flatten <$> directories.mapM fun last => issueOf ((along (parent.child name) way).child last)
      (removeDirectory ((along (parent.child name) way).child last)))
    (fun other => (done other ∨ Under directories way other) ∨ Beside files way other)
    (Beside directories way) := by
  have root := clearable.root
  have distinct := (List.nodup_append'.mp listing.distinct).2.1
  refine beside_sweeps root distinct (fun last member other above looked => ?_) fun last member so_far new old => ?_
  · rcases looked with (old | ⟨also, -, below⟩) | ⟨also, file, rfl⟩
    · exact not_done_above fresh above old
    · exact not_below_above above below
    · refine listing.apart ⟨last, member, rfl⟩ ⟨also, file, ?_⟩
      rw [Location.suffix_beside above]
  · rw [← along_cons]
    have looked (other : Location) (below : Location.IsBelow (last :: way) other) : so_far other :=
      old other (.inl (.inr ⟨last, member, below⟩))
    exact issueOf_sweeps root (by simp) (fun other below _ => looked other below) fun middle swept =>
      swept.removeListed clearable new (listing.directory last member) fun other below _ => looked other below

end Phases

/-- Clearing a directory looks at all that lies in it. -/
theorem clear_sweeps {fuel : Nat} (clearable : Clearable disk parent name directory)
    (held : disk.tree.get? (way ++ name :: directory) = some .directory)
    (deep : ∀ other, way <:+ other → disk.tree.get? (other ++ name :: directory) ≠ none →
      other.length < way.length + fuel)
    (fresh : ∀ other, other <:+ way ∨ way <:+ other → ¬ done other) :
    Sweeps disk (parent.child name) (name :: directory) (clear fuel (along (parent.child name) way)) done
      way.IsBelow := by
  induction fuel generalizing way done with
  | zero => exact absurd (deep way List.suffix_rfl (by simp [held])) (by omega)
  | succ fuel ih =>
    intro after swept
    have root := clearable.root
    have locates := swept.locates clearable (fun other within => fresh other (.inl within)) (by simp [held])
    have same := swept.sameAt way (.inl (fresh way (.inl List.suffix_rfl)))
    obtain ⟨readable, -, short⟩ := clearable.listed way held
    unfold clear
    rw [Ends.bind_iff, Ends.get_iff, onward_ok,
      locates.find_of_isShort (by decide) short (same.1.trans held) (.inr (by simp))]
    dsimp only
    rw [Ends.bind_iff, Ends.get_iff, onward_ok, if_neg (by simp [same.grants, readable]), Ends.bind_iff]
    refine (namesIn_lists swept fun last => fresh _ (.inr (List.suffix_cons last way))).mono fun r middle ends => ?_
    obtain ⟨rfl, files, directories, rfl, listing⟩ := ends
    rw [onward_ok]
    -- the induction hypothesis is for the directories among the names; nothing lies in the links
    have under : Sweeps disk (parent.child name) (name :: directory)
        (List.flatten <$> directories.mapM fun last => do
          if (← get).tree.get? (last :: (way ++ name :: directory)) = some .directory then
            clear fuel ((along (parent.child name) way).child last)
          else return []) done (Under directories way) := by
      have distinct := (List.nodup_append'.mp listing.distinct).2.1
      refine under_sweeps root distinct fresh fun last member so_far new middle swept => ?_
      have same := (swept.sameAt (last :: way) (.inl (new _ (.inl List.suffix_rfl)))).1
      rw [List.cons_append] at same
      rw [Ends.bind_iff, Ends.get_iff, onward_ok, same]
      split
      · next held =>
        rw [← along_cons]
        refine ih held (fun other within there => ?_) new middle swept
        have shorter := deep other ((List.suffix_cons last way).trans within) there
        rw [List.length_cons]
        omega
      · next file => exact pure_sweeps root (fun other inside => vacant_inside root file inside) middle swept
    refine (under.then (files_sweeps clearable listing fresh) (directories_sweeps clearable listing fresh)
      ?_ ?_).mono root (fun other => isBelow_of_covered) (fun other => listing.covers root) middle swept
    · exact fun other deeper beside => beside.not_under deeper
    · rintro other (deeper | file) beside
      · exact beside.not_under deeper
      · exact listing.apart beside file

/-! ## Releasing -/

/-- What lies at different ways lies at the ends of different paths. -/
theorem along_injective {base : Path} {other : Location} (named : ∀ name ∈ way, Path.IsName name)
    (also : ∀ name ∈ other, Path.IsName name) (same : along base way = along base other) : way = other := by
  unfold along at same
  rw [Disk.pathBelow_eq (by simpa using named), Disk.pathBelow_eq (by simpa using also), Path.mk.injEq] at same
  exact List.reverse_injective (List.append_cancel_left same.2)

theorem IsLeft.named (left : IsLeft disk workspace top way) (root : disk.tree.IsTree) :
    ∀ name ∈ way, Path.IsName name := by
  intro name member
  exact (root.isPlain_path (left.there root)).named name (by simp [Location.path, member])

theorem Tells.nodup {issues : List CleanupIssue} (tells : Tells disk workspace top region issues)
    (root : disk.tree.IsTree) : (issues.map CleanupIssue.path).Nodup := by
  obtain ⟨ways, distinct, members, told⟩ := tells
  rw [told]
  refine List.Nodup.map_on (fun way first other second same => ?_) distinct
  exact along_injective (((members way).mp first).2.named root) (((members other).mp second).2.named root) same

/-- What a workspace leaves when it is released: outside of it all is as it was, and of what was in it the
entries that are left are as they were, each told once, and the others are gone. -/
structure Leaves (disk : Disk) (workspace : Path) (top : Location) (issues : List CleanupIssue)
    (after : Disk) : Prop where
  outside : SameBut (top <:+ ·) disk after
  kept : ∀ way, IsLeft disk workspace top way → SameAt disk after (way ++ top)
  gone : ∀ way, ¬ IsLeft disk workspace top way → after.tree.get? (way ++ top) = none
  told : Tells disk workspace top (fun _ => True) issues
  once : (issues.map CleanupIssue.path).Nodup
  nothing : (∀ way, ¬ IsHeld disk workspace top way) → after.tree.get? top = none ∧ issues = []

theorem Swept.leaves {issues : List CleanupIssue} (swept : Swept disk workspace top done after)
    (all : ∀ way, done way) (tells : Tells disk workspace top (fun _ => True) issues) (root : disk.tree.IsTree) :
    Leaves disk workspace top issues after := by
  refine ⟨swept.same.mono ?_, fun way left => swept.sameAt way (.inr left), fun way => swept.gone way (all way),
    tells, tells.nodup root, fun free => ?_⟩
  · rintro location ⟨way, rfl, -⟩
    exact List.suffix_append way top
  · have none_left (way : Location) : ¬ IsLeft disk workspace top way := fun ⟨inner, _, held⟩ => free inner held
    refine ⟨swept.gone [] (all []) (none_left []), ?_⟩
    obtain ⟨ways, -, members, told⟩ := tells
    have none_told : ways = [] := List.eq_nil_iff_forall_not_mem.mpr fun way member =>
      none_left way ((members way).mp member).2
    rwa [none_told, List.map_nil, List.map_eq_nil_iff] at told

section Release
variable (clearable : Clearable disk parent name directory)

include clearable

theorem Clearable.swept : Swept disk (parent.child name) (name :: directory) (fun _ => False) disk :=
  ⟨clearable.root, clearable.distinct, rfl, rfl, .refl disk, fun _ => False.elim⟩

theorem Clearable.found :
    disk.find .look (parent.child name) = .ok (.entry (name :: directory) .directory) := by
  obtain ⟨held, -, short⟩ := clearable.is_there
  have locates : disk.Locates (along (parent.child name) []) ([] ++ name :: directory) :=
    clearable.swept.locates clearable (fun _ _ => id) (by simp [held])
  exact locates.find_of_isShort (by decide) short held (.inr (by simp))

theorem contents_sweeps : Sweeps disk (parent.child name) (name :: directory)
    (clear (disk.tree.entries.length + 1) (parent.child name)) (fun _ => False) (Location.IsBelow []) := by
  show Sweeps _ _ _ (clear _ (along (parent.child name) [])) _ _
  refine clear_sweeps clearable clearable.is_there.1 (fun other _ there => ?_) fun _ _ => id
  have shorter := clearable.root.length_le there
  rw [List.length_append, List.length_cons] at shorter
  rw [List.length_nil]
  omega

theorem itself_sweeps : Sweeps disk (parent.child name) (name :: directory)
    (issueOf (parent.child name) (Disk.removeDirectory (parent.child name)))
    (fun way => False ∨ Location.IsBelow [] way) (· = []) := by
  show Sweeps _ _ _ (issueOf (along (parent.child name) []) (Disk.removeDirectory (along _ []))) _ _
  refine issueOf_sweeps clearable.root (List.cons_ne_nil _ _) (fun other below _ => .inr below) fun after swept =>
    swept.removeDirectory clearable ?_ clearable.is_there.1 fun other below _ => .inr below
  rintro other above (looked | below)
  · exact looked
  · exact below.2 (List.suffix_nil.mp above)

/-- Releasing a workspace removes from it all whose removal is not refused, and tells the rest. -/
theorem release_leaves :
    Ends (release (parent.child name)) disk fun r after => ∃ issues, r = .ok issues ∧
      Leaves disk (parent.child name) (name :: directory) issues after := by
  have root := clearable.root
  unfold release
  rw [Ends.bind_iff, Disk.probe_of_found clearable.free clearable.found, onward_ok]
  dsimp only
  rw [Ends.bind_iff, Ends.get_iff, onward_ok, Ends.bind_iff]
  refine (contents_sweeps clearable disk clearable.swept).mono fun r middle ends => ?_
  obtain ⟨issues, rfl, swept, tells⟩ := ends
  rw [onward_ok, Ends.bind_iff]
  refine (itself_sweeps clearable middle swept).mono fun r after ends => ?_
  obtain ⟨more, rfl, swept, also⟩ := ends
  have everywhere (way : Location) : Location.IsBelow [] way ∨ way = [] := by
    by_cases none : way = []
    · exact .inr none
    · exact .inl ⟨List.nil_suffix, none⟩
  rw [onward_ok, Ends.pure_iff]
  refine ⟨issues ++ more, rfl, swept.leaves (fun way => by simpa using everywhere way) ?_ root⟩
  refine (tells.append also fun way below same => below.2 same).mono root (fun _ _ => trivial) ?_
  exact fun way _ _ => everywhere way

end Release

/-- A directory with a workspace in which a file is stuck, and links that lead out of the workspace and to
the directory that it lies in. -/
def littered : Disk where
  tree := ((((((((FileTree.empty.put ["d"] .directory).put ["w", "d"] .directory).put ["stuck", "w", "d"]
    (.file (.ofText "s"))).put ["in", "w", "d"] .directory).put ["loose", "in", "w", "d"]
    (.file (.ofText "l"))).put ["up", "w", "d"] (.link "..")).put ["out", "in", "w", "d"]
    (.link "../../kept")).put ["kept", "d"] .directory).put ["file", "kept", "d"] (.file (.ofText "k"))
  here := []
  stuck := ["stuck"]
  modes := []
  mask := 0o022

theorem clearable_littered : Clearable littered ⟨.here, ["d"]⟩ "w" ["d"] where
  root := FileTree.isTree_of_entries (by decide +kernel)
  distinct := by
    unfold FileTree.Distinct
    decide +kernel
  named := by decide
  free := by decide +kernel
  there := by decide +kernel
  stays := by
    intro after here same
    have base : after.LeadsInto ⟨.here, []⟩ [] := by
      rw [LeadsInto, FileTree.resolve, Disk.start, here]
      rfl
    have outside : SameAt littered after ["d"] := same _ fun below => Location.not_suffix_above "w" _ below.1
    have top : SameAt littered after [] := same _ fun below =>
      List.cons_ne_nil _ _ (List.suffix_nil.mp below.1)
    have named : Path.IsName "d" := by decide
    exact base.child named top.enters (by decide) outside.1
  listed := by
    have all : ∀ item ∈ littered.tree.entries, item.2 = .directory → ["w", "d"] <:+ item.1 →
        littered.grants .read item.1 = true ∧ littered.enters item.1 = true ∧
          (along (Path.child ⟨.here, ["d"]⟩ "w") (item.1.take (item.1.length - 2))).IsShort := by
      decide +kernel
    intro way held
    have listed := all _ (FileTree.mem_entries (by simp) held) rfl (List.suffix_append way _)
    simpa using listed

/-- Of the workspace there stays what leads to the stuck file; what the links lead to is as it was. -/
theorem release_leaves_littered : Clearable littered ⟨.here, ["d"]⟩ "w" ["d"] ∧
    Ends (release (Path.child ⟨.here, ["d"]⟩ "w")) littered fun r after => ∃ issues, r = .ok issues ∧
      Leaves littered (Path.child ⟨.here, ["d"]⟩ "w") ["w", "d"] issues after :=
  ⟨clearable_littered, release_leaves clearable_littered⟩

/-- A workspace with a link to the directory that it lies in. -/
def looped : Disk where
  tree := ((FileTree.empty.put ["w"] .directory).put ["f", "w"] (.file (.ofText "x"))).put ["up", "w"] (.link "..")
  here := []
  stuck := []
  modes := []
  mask := 0o022

/-- A workspace with two directories, one in the other, of which the outer one has a mode. -/
def guarded (mode : Nat) : Disk where
  tree := ((FileTree.empty.put ["w"] .directory).put ["d", "w"] .directory).put ["e", "d", "w"] .directory
  here := []
  stuck := []
  modes := [(["d", "w"], mode)]
  mask := 0o022

/-- Although no file is stuck, a workspace stays if its path leads through itself, a directory stays where
there is no right to remove it, and one that cannot be listed is told twice. -/
theorem workspace_remains : (looped.stuck = [] ∧ ∀ mode, (guarded mode).stuck = []) ∧
    looped.find .look ⟨.here, ["w", "up", "w"]⟩ = .ok (.entry ["w"] .directory) ∧
    Ends (release ⟨.here, ["w", "up", "w"]⟩) looped (fun r after =>
      r.toOption.map (·.map CleanupIssue.path) = some [⟨.here, ["w", "up", "w"]⟩] ∧
        after.tree.get? ["w"] = some .directory) ∧
    Ends (release ⟨.here, ["w"]⟩) (guarded 0o555) (fun r after =>
      r.toOption.map (·.map CleanupIssue.path) =
        some [⟨.here, ["w", "d", "e"]⟩, ⟨.here, ["w", "d"]⟩, ⟨.here, ["w"]⟩] ∧
        after.tree = (guarded 0o555).tree) ∧
    Ends (release ⟨.here, ["w"]⟩) (guarded 0) fun r after =>
      r.toOption.map (·.map CleanupIssue.path) =
        some [⟨.here, ["w", "d"]⟩, ⟨.here, ["w", "d"]⟩, ⟨.here, ["w"]⟩] ∧
        after.tree = (guarded 0).tree := by
  refine ⟨⟨rfl, fun _ => rfl⟩, by decide +kernel, ?_, ?_, ?_⟩
  all_goals
    unfold Ends
    decide +kernel

end Workspace
end JavaStubs

import JavaStubs.Proofs.Files.Changes

/-!
What making directories changes: there may be new ones on the way to the last one, and nothing else
is any different.
-/
namespace JavaStubs.Disk

open FileTree (Purpose Found IsTree)

variable {disk before middle after : Disk} {purpose : Purpose} {path : Path} {name : String}
  {location directory : Location}

theorem LeadsInto.of_find (leads : disk.find .look path = .ok (.entry directory .directory)) :
    disk.LeadsInto path directory :=
  resolve_of_find leads

theorem fits_of_find {found : Found} (success : disk.find purpose path = .ok found) :
    ¬ FileTree.pathLimit ≤ path.text.utf8ByteSize := by
  intro long
  rw [find, if_pos long] at success
  cases success

theorem LeadsInto.find (leads : disk.LeadsInto path directory)
    (fits : ¬ FileTree.pathLimit ≤ path.text.utf8ByteSize) :
    disk.find .look path = .ok (.entry directory .directory) := by
  rw [find_eq (by decide), if_neg fits]
  exact leads

/-- There may be new directories that parts of a path lead to; all else is as it was. -/
def Grown (path : Path) (before after : Disk) : Prop :=
  ∀ location, SameAt before after location ∨
    (before.tree.get? location = none ∧ after.tree.get? location = some .directory ∧
      ∃ names, names <+: path.names ∧ after.LeadsInto ⟨path.anchor, names⟩ location)

theorem Grown.refl (path : Path) (disk : Disk) : Grown path disk disk :=
  fun location => .inl (.refl disk location)

theorem Grown.keepsRoutes (grown : Grown path before after) : KeepsRoutes before after := by
  intro location there
  rcases grown location with same | ⟨vacant, -⟩
  · exact same
  · rw [vacant] at there
    simp at there

theorem Grown.still_there {entry : Entry} (grown : Grown path before after)
    (there : before.tree.get? location = some entry) : after.tree.get? location = some entry := by
  rcases grown location with same | ⟨vacant, -⟩
  · exact same.1.trans there
  · rw [vacant] at there
    cases there

theorem Grown.was_there {entry : Entry} (grown : Grown path before after) (no_directory : entry ≠ .directory)
    (there : after.tree.get? location = some entry) : before.tree.get? location = some entry := by
  rcases grown location with same | ⟨-, made, -⟩
  · exact same.1.symm.trans there
  · rw [made] at there
    exact absurd (Option.some.inj there).symm no_directory

theorem Grown.of_parent (grown : Grown path.parent before after) : Grown path before after := by
  intro location
  rcases grown location with same | ⟨vacant, made, names, start, leads⟩
  · exact .inl same
  · exact .inr ⟨vacant, made, names, start.trans (List.dropLast_prefix path.names), leads⟩

theorem Grown.child (grown : Grown path before after) (named : Path.IsName name) :
    Grown (path.child name) before after :=
  .of_parent (by rwa [Path.parent_child named])

/-- A vacant place that a path with one more name leads to is in the directory of the path. -/
theorem vacant_of_find_child (named : Path.IsName name)
    (vacant : disk.find .entry (path.child name) = .ok (.vacant location)) :
    ∃ directory, disk.LeadsInto path directory ∧ location = name :: directory ∧
      disk.tree.get? (name :: directory) = none ∧ disk.enters directory = true ∧
      ¬ FileTree.longestName < name.utf8ByteSize := by
  obtain ⟨directory, leads, entered, short, found⟩ := exists_of_find_child named vacant
  unfold FileTree.found at found
  split at found
  · next held =>
    cases found
    exact ⟨directory, leads, rfl, held, entered, short⟩
  · cases found

/-- A new directory, in a directory that a path leads to. -/
structure Made (path : Path) (name : String) (directory : Location) (before after : Disk) : Prop where
  above : before.LeadsInto path directory
  vacant : before.tree.get? (name :: directory) = none
  made : after.tree.get? (name :: directory) = some .directory
  others : SameBut (· = name :: directory) before after
  tree : after.tree.IsTree
  leads : after.LeadsInto (path.child name) (name :: directory)

theorem Made.keepsRoutes (made : Made path name directory before after) : KeepsRoutes before after := by
  refine made.others.keepsRoutes ?_
  rintro _ rfl
  simp [made.vacant]

/-- What is made where a path with one more name leads to a vacant place. -/
theorem made_of_vacant (root : disk.tree.IsTree) (alike : StartsAlike disk after path)
    (named : Path.IsName name) (free : Path.hasNul (path.child name).text = false)
    (vacant : disk.find .entry (path.child name) = .ok (.vacant location))
    (tree : after.tree = disk.tree.put location .directory)
    (others : SameBut (· = location) disk after) :
    ∃ directory, location = name :: directory ∧ Made path name directory disk after := by
  obtain ⟨directory, above, rfl, none_there, entered, short⟩ := vacant_of_find_child named vacant
  rw [Path.hasNul_child named, Bool.or_eq_false_iff] at free
  have there := above.isDirectory_of_start root alike.start
  have made : after.tree.get? (name :: directory) = some .directory := by
    rw [tree, FileTree.get?_put _ _ _ (by simp), if_pos rfl]
  have kept : KeepsRoutes disk after := by
    refine others.keepsRoutes ?_
    rintro _ rfl
    simp [none_there]
  have into := above.kept_of_alike root alike kept
  have entered_still := (kept directory (.inl there)).enters.trans entered
  refine ⟨directory, rfl, above, none_there, made, others, ?_, into.child named entered_still short made⟩
  rw [tree]
  exact root.put there named free.2 (.inl rfl)

theorem Grown.step (grown : Grown path before middle) (made : Made path name directory middle after)
    (root : middle.tree.IsTree) (alike : StartsAlike middle after path) (named : Path.IsName name) :
    Grown (path.child name) before after ∧ before.tree.get? (name :: directory) = none := by
  have vacant : before.tree.get? (name :: directory) = none := by
    rcases grown (name :: directory) with same | ⟨none_there, -⟩
    · exact same.1.symm.trans made.vacant
    · exact none_there
  refine ⟨fun location => ?_, vacant⟩
  by_cases new : location = name :: directory
  · subst new
    exact .inr ⟨vacant, made.made, (path.child name).names, List.prefix_refl _, made.leads⟩
  · have still := made.others location new
    rcases grown.child named location with same | ⟨none_there, there, names, start, leads⟩
    · exact .inl (same.trans still)
    · refine .inr ⟨none_there, still.1.trans there, names, start, ?_⟩
      have anchor : (path.child name).anchor = path.anchor := by rw [Path.child_name named]
      exact leads.kept_of_alike root (alike.of_anchor anchor) made.keepsRoutes

/-! ## Making directories -/

/-- A fault of making a directory that an earlier one is missing for. -/
theorem find_notFound (named : Path.IsName name)
    (missing : disk.find .entry (path.child name) = .error .notFound) :
    ¬ disk.LeadsInto path directory := by
  intro leads
  rw [find_child named leads (by decide) (.inl rfl)] at missing
  split at missing
  · cases missing
  · split at missing
    · cases missing
    · split at missing <;> cases missing

theorem ensureDirectory_ends {post : Except FileFault Unit → Disk → Prop}
    (made : ∀ location, Path.hasNul path.text = false →
      disk.find .entry path = .ok (.vacant location) →
      post (.ok ()) (disk.withNew location .directory 0o777))
    (there : ∀ location, disk.LeadsInto path location → post (.ok ()) disk)
    (refused : ∀ fault, post (.error fault) disk) : Ends (ensureDirectory path) disk post := by
  unfold ensureDirectory
  rw [Ends.tryCatch_iff]
  refine makeDirectory_ends made fun fault _ => ?_
  rw [caught_error]
  split
  · exact refused _
  · rw [Ends.bind_iff]
    exact isDirectory_ends (fun location leads => there location (.of_find leads)) (refused _)
      fun _ => refused _
  · exact refused _

/-- What making directories up to the end of a path leaves, wherever that starts. The directory at the end
was there before, or there was nothing in its place, unless a step up leads to it. -/
structure Opened (path : Path) (before : Disk) (r : Except FileFault Unit) (after : Disk) : Prop where
  tree : after.tree.IsTree
  here : after.here = before.here
  grown : Grown path before after
  leads : r = .ok () → ∃ location, after.LeadsInto path location ∧
    (".." ∉ path.names → before.LeadsInto path location ∨ before.tree.get? location = none)

section Opened
variable {r : Except FileFault Unit}

theorem Opened.made (grown : Grown path before middle) (made : Made path name directory middle after)
    (root : middle.tree.IsTree) (alike : StartsAlike middle after path) (named : Path.IsName name)
    (here : after.here = before.here) : Opened (path.child name) before r after := by
  obtain ⟨grown, vacant⟩ := grown.step made root alike named
  exact ⟨made.tree, here, grown, fun _ => ⟨_, made.leads, fun _ => .inr vacant⟩⟩

theorem Opened.refused (root : after.tree.IsTree) (here : after.here = before.here)
    (grown : Grown path before after) (fault : FileFault) : Opened path before (.error fault) after :=
  ⟨root, here, grown, nofun⟩

theorem Opened.there (root : disk.tree.IsTree) (leads : disk.LeadsInto path location) :
    Opened path disk r disk :=
  ⟨root, rfl, .refl path disk, fun _ => ⟨location, leads, fun _ => .inl leads⟩⟩

end Opened

/-- What a path leads to is not vacant, unless the path ends in a name. -/
theorem exists_child_of_vacant (clean : path.IsClean) (vacant : disk.find purpose path = .ok (.vacant location)) :
    ∃ (parent : Path) (name : String), path = parent.child name ∧ Path.IsName name := by
  have reached := resolve_of_find vacant
  rcases clean.cases with none | ⟨front, up⟩ | child
  · rw [none, FileTree.resolve] at reached
    cases reached
  · rw [up] at reached
    obtain ⟨directory, leads⟩ := FileTree.resolve_of_append (by simp) reached
    obtain ⟨left, same⟩ := FileTree.resolve_append leads
    rw [same purpose [".."] (.inr (by simp)), FileTree.resolve] at reached
    simp only [if_neg (show ".." ≠ "" by decide), if_neg (show ".." ≠ "." by decide), FileTree.resolve] at reached
    split at reached <;> cases reached
  · exact child

/-- In a new directory there is nothing but what is new as well. -/
private theorem vacant_of_grown (root : before.tree.IsTree) (grown : Grown path before after)
    (named : Path.IsName name) (leads : after.LeadsInto path directory)
    (vacant : before.tree.get? directory = none) (found : after.LeadsInto (path.child name) location) :
    before.tree.get? location = none := by
  have none_below : before.tree.get? (name :: directory) = none :=
    root.vacant_below (by simp [vacant]) name
  obtain ⟨other, also, place⟩ := found.of_child named
  obtain rfl := leads.unique also
  have no_link (target : String) : after.tree.get? (name :: directory) ≠ some (.link target) := by
    intro link
    have was : before.tree.get? (name :: directory) = some (.link target) := grown.was_there nofun link
    rw [none_below] at was
    cases was
  rw [(place no_link).1]
  exact none_below

theorem makeDirectoriesFrom_opens (root : disk.tree.IsTree)
    (start : disk.tree.get? (disk.start path) = some .directory) (clean : path.IsClean) {names : Nat}
    (length : path.names.length = names) : Ends (makeDirectoriesFrom names path) disk (Opened path disk) := by
  induction names generalizing path disk with
  | zero =>
    unfold makeDirectoriesFrom
    refine ensureDirectory_ends (fun location _ vacant => ?_) (fun location => .there root)
      (.refused root rfl (.refl path disk))
    obtain ⟨parent, name, rfl, named⟩ := exists_child_of_vacant clean vacant
    simp [Path.names_child named] at length
  | succ above ih =>
    have parent_length : path.parent.names.length = above := by
      rw [Path.parent, List.length_dropLast, length, Nat.add_sub_cancel]
    have start_above : disk.tree.get? (disk.start path.parent) = some .directory := start
    have refused (fault : FileFault) : Opened path disk (.error fault) disk :=
      .refused root rfl (.refl path disk) fault
    unfold makeDirectoriesFrom
    rw [Ends.tryCatch_iff]
    refine makeDirectory_ends (fun location free vacant => ?_) fun fault missing => ?_
    · obtain ⟨parent, name, rfl, named⟩ := exists_child_of_vacant clean vacant
      rw [start_child named] at start
      have alike : StartsAlike disk (disk.withNew location .directory 0o777) parent := .of_here start rfl
      obtain ⟨directory, rfl, made⟩ := made_of_vacant root alike named free vacant rfl (withNew_sameBut _ _)
      exact .made (.refl parent disk) made root alike named rfl
    · rw [caught_error]
      split
      · next file =>
        rw [Ends.bind_iff]
        refine (ih root start_above clean.parent parent_length).mono fun r middle opened => ?_
        obtain ⟨tree, here, grown, success⟩ := opened
        cases r with
        | error fault => exact .refused tree here (.of_parent grown) fault
        | ok _ =>
          rw [onward_ok]
          refine ensureDirectory_ends (fun location free vacant => ?_) (fun location found => ?_)
            (.refused tree here (.of_parent grown))
          · have start := (StartsAlike.of_here start here).start_after grown.keepsRoutes
            obtain ⟨parent, name, rfl, named⟩ := exists_child_of_vacant clean vacant
            rw [start_child named] at start
            rw [Path.parent_child named] at grown
            have alike : StartsAlike middle (middle.withNew location .directory 0o777) parent :=
              .of_here start rfl
            obtain ⟨directory, rfl, made⟩ :=
              made_of_vacant tree alike named free vacant rfl (withNew_sameBut _ _)
            exact .made grown made tree alike named here
          · refine ⟨tree, here, .of_parent grown, fun _ => ⟨location, found, fun no_up => ?_⟩⟩
            rcases clean.cases with none | ⟨front, up⟩ | ⟨parent, name, rfl, named⟩
            · simp [none] at length
            · exact absurd (by simp [up]) no_up
            · rw [Path.parent_child named] at grown success
              rw [Path.names_child named] at no_up
              obtain ⟨directory, leads, there_before⟩ := success rfl
              have none_before := (there_before fun member => no_up (List.mem_append_left _ member)).resolve_left
                (find_notFound named (missing file rfl))
              exact .inr (vacant_of_grown root grown named leads none_before found)
      · rw [Ends.bind_iff]
        exact isDirectory_ends (fun location found => .there root (.of_find found)) (refused _)
          fun _ => refused _
      · exact refused _

theorem makeDirectories_opens (root : disk.tree.IsTree)
    (start : disk.tree.get? (disk.start path) = some .directory) (clean : path.IsClean) :
    Ends (makeDirectories path) disk (Opened path disk) :=
  makeDirectoriesFrom_opens root start clean rfl

/-- What making directories up to the end of a path leaves. The directory at the end was there before,
or there was nothing in its place. -/
def Reached (path : Path) (before : Disk) (r : Except FileFault Unit) (after : Disk) : Prop :=
  after.tree.IsTree ∧ Grown path before after ∧
    (r = .ok () → ∃ location, after.LeadsInto path location ∧
      (before.LeadsInto path location ∨ before.tree.get? location = none))

theorem makeDirectories_ends (root : disk.tree.IsTree) (plain : path.IsPlain) :
    Ends (makeDirectories path) disk (Reached path disk) := by
  have alike : StartsAlike disk disk path := .of_absolute plain.absolute
  refine (makeDirectories_opens root alike.start plain.isClean).mono fun r after opened => ?_
  refine ⟨opened.tree, opened.grown, fun done => ?_⟩
  obtain ⟨location, leads, was⟩ := opened.leads done
  exact ⟨location, leads, was fun member => (plain.named _ member).not_dots rfl⟩

end JavaStubs.Disk

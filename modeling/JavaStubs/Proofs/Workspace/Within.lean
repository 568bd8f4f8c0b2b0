import JavaStubs.Proofs.Files.Below
import JavaStubs.Proofs.Text.Digits
import JavaStubs.Proofs.Workspace.Clearing
import JavaStubs.Workspace

/-!
Jobs in a workspace. A workspace is a new directory beside the archive, and besides it there may only be new
directories above it. A job that changes nothing but what lies in its workspace and the archive leaves
nothing else behind, however it ends, if the workspace can be cleared away.
-/
namespace JavaStubs

/-! ## Making a workspace -/

namespace Workspace

section Making

open Disk (Grown Made Reached SameBut LeadsInto)
open JavaStubs.Path (IsName)

/-! ### Names of workspaces -/

private theorem inDigits_ends (width n : Nat) :
    ∃ front last, (inDigits width n).toList = front ++ [last] ∧ last.isDigit = true := by
  have some_digits := inDigits_ne_nil width n
  have whole := (List.dropLast_concat_getLast some_digits).symm
  exact ⟨_, _, whole, isDigit_inDigits (List.getLast_mem some_digits)⟩

/-- What the name of a workspace starts with decides whether it is a name. -/
theorem isName_nameOf {start : String} (undivided : '/' ∉ start.toList) (serial : Nat) :
    IsName (nameOf start serial) := by
  obtain ⟨front, last, digits, digit⟩ := inDigits_ends 8 serial
  have whole : (nameOf start serial).toList = (start.toList ++ front) ++ [last] := by
    rw [nameOf, String.toList_append, digits, List.append_assoc]
  have other {text : String} (ends : text.toList.getLast? ≠ some last) :
      nameOf start serial ≠ text := by
    rintro rfl
    exact ends (by rw [whole, List.getLast?_concat])
  have not_dot : last ≠ '.' := by
    rintro rfl
    exact absurd digit (by decide)
  refine ⟨other (by simp), other ?_, other ?_, fun member => ?_⟩
  · exact fun same => not_dot (Option.some.inj same).symm
  · exact fun same => not_dot (Option.some.inj same).symm
  · rw [nameOf, String.toList_append] at member
    rcases List.mem_append.mp member with member | member
    · exact undivided member
    · exact absurd (isDigit_inDigits member) (by decide)

private theorem endsWith_iff {text : String} :
    text.endsWith "/" = true ↔ ['/'] <:+ text.toList := by
  rw [← String.endsWith_toSlice, String.Slice.endsWith_string_iff, String.copy_toSlice]
  rfl

private theorem ends_of_name {front name : String} (named : IsName name) :
    (front ++ name).endsWith "/" = false := by
  obtain ⟨start, last, whole⟩ :=
    (List.eq_nil_or_concat' name.toList).resolve_left named.toList_ne_nil
  have other : last ≠ '/' := by
    rintro rfl
    exact named.undivided (by simp [whole])
  rw [Bool.eq_false_iff, ne_eq, endsWith_iff, String.toList_append, whole, ← List.append_assoc]
  rintro ⟨before, same⟩
  exact other (List.append_inj_right' same rfl |> List.cons.inj |>.1).symm

theorem joined_eq {parent : Path} {name : String} (plain : parent.IsPlain) (named : IsName name) :
    joined parent name = (parent.child name).text := by
  have no_slash : name.startsWith "/" = false := by
    rw [String.startsWith_string_eq_false_iff]
    rintro ⟨rest, whole⟩
    exact named.undivided (by simp [← whole])
  rw [Path.text_child plain.absolute named, joined, no_slash]
  simp only [Bool.false_eq_true, if_false]
  obtain none | ⟨above, last, rfl, above_plain, last_named⟩ := plain.cases
  · obtain ⟨anchor, names⟩ := parent
    have absolute := plain.absolute
    subst none
    have ends : Path.text ⟨anchor, []⟩ = anchor.text ∧ anchor.text.endsWith "/" = true := by
      rw [endsWith_iff]
      cases anchor with
      | here => cases absolute
      | root => exact ⟨by decide, ⟨[], rfl⟩⟩
      | doubleRoot => exact ⟨by decide, ⟨['/'], rfl⟩⟩
    rw [ends.1, if_pos ends.2, if_pos rfl]
  · have ends : (above.child last).text.endsWith "/" = false := by
      rw [Path.text_child above_plain.absolute last_named]
      split
      · exact ends_of_name last_named
      · exact ends_of_name last_named
    rw [ends, if_neg (by simp), if_neg (by simp [Path.names_child last_named])]

/-! ### Making -/

/-- A new directory with a name in the one that a path leads to, or nothing at all. -/
def Fresh {ε : Type} (parent : Path) (before : Disk) : Except ε Path → Disk → Prop
  | .ok workspace, after => ∃ name directory, workspace = parent.child name ∧ IsName name ∧
      Path.hasNul workspace.text = false ∧
      ¬ FileTree.pathLimit ≤ workspace.text.utf8ByteSize ∧
      Made parent name directory before after
  | .error _, after => after = before

variable {parent archive : Path} {name start : String} {disk : Disk} {world : World}

theorem makeNamed_ends (root : disk.tree.IsTree) (plain : parent.IsPlain) (named : IsName name) :
    Ends (makeNamed (parent.child name).text) disk (Fresh parent disk) := by
  have refused (fault : FileFault) : Fresh parent disk (.error fault) disk := rfl
  unfold makeNamed
  rw [Ends.tryCatch_iff, Path.ofText_text (plain.child named)]
  refine Ends.mono ((?_ : Ends _ disk (Fresh parent disk))) fun r after fresh => ?_
  · split
    · exact refused _
    next fits =>
      rw [Ends.bind_iff]
      refine Disk.makeDirectory_ends (fun location free vacant => ?_) fun fault _ => refused fault
      rw [onward_ok, Ends.bind_iff, Ends.get_iff, onward_ok]
      have fresh {after : Disk} (tree : after.tree = disk.tree.put location .directory)
          (others : SameBut (· = location) disk after) :
          Fresh parent disk (.ok (parent.child name) : Except FileFault Path) after := by
        obtain ⟨directory, rfl, made⟩ :=
          Disk.made_of_vacant root (.of_absolute plain.absolute) named free vacant tree others
        exact ⟨name, directory, rfl, named, free, fits, made⟩
      have first := @Disk.withNew_sameBut disk location .directory 0o777
      split
      · next found reached =>
        rw [Ends.bind_iff, Ends.modify_iff, onward_ok, Ends.pure_iff]
        obtain ⟨directory, rfl, made⟩ :=
          Disk.made_of_vacant root (.of_absolute plain.absolute) named free vacant rfl first
        have above := made.above.kept root plain.absolute made.keepsRoutes
        obtain rfl := Disk.found_of_find_child named above (.inl rfl) reached
        rw [FileTree.found_location]
        exact fresh rfl (first.trans (Disk.withMode_sameBut 0o700))
      · exact fresh rfl first
  · cases r with
    | ok workspace => exact fresh
    | error fault =>
      obtain rfl : after = disk := fresh
      rw [caught_error]
      split <;> exact refused _

theorem makeFresh_ends (root : world.disk.tree.IsTree) (plain : parent.IsPlain)
    (undivided : '/' ∉ start.toList) (attempts : Nat) :
    Ends (makeFresh parent start attempts) world fun r after =>
      Fresh parent world.disk r after.disk := by
  induction attempts generalizing world with
  | zero => exact (rfl : world.disk = world.disk)
  | succ attempts ih =>
    have named := isName_nameOf undivided (world.serial + 1)
    unfold makeFresh
    rw [Ends.bind_iff, Ends.modify_iff, onward_ok, Ends.bind_iff, Ends.get_iff, onward_ok,
      Ends.bind_iff, Ends.attempt_iff, Ends.onDisk_iff]
    dsimp only
    rw [joined_eq plain named]
    refine (makeNamed_ends root plain named).mono fun r after fresh => ?_
    rw [onward_ok]
    cases r with
    | ok workspace => exact fresh
    | error fault =>
      obtain rfl : after = world.disk := fresh
      rw [mapError_error]
      split
      · next same => cases same
      · exact ih root
      · exact rfl

/-- What `acquire` leaves: directories on the way to that of the archive, and the workspace in it. -/
structure Acquired (archive : Path) (before middle : Disk) (name : String) (directory : Location)
    (after : Disk) : Prop where
  tree : middle.tree.IsTree
  grown : Grown archive.parent before middle
  reached : before.LeadsInto archive.parent directory ∨ before.tree.get? directory = none
  named : IsName name
  free : Path.hasNul (archive.parent.child name).text = false
  fits : ¬ FileTree.pathLimit ≤ (archive.parent.child name).text.utf8ByteSize
  made : Made archive.parent name directory middle after

theorem acquire_ends (root : world.disk.tree.IsTree) (plain : archive.IsPlain)
    (undivided : '/' ∉ start.toList) :
    Ends (acquire archive start) world fun
      | .ok workspace, after => ∃ middle name directory, workspace = archive.parent.child name ∧
          Acquired archive world.disk middle name directory after.disk
      | .error _, after => after.disk.tree.IsTree ∧ Grown archive.parent world.disk after.disk := by
  unfold acquire absolute
  rw [Ends.bind_iff, Ends.bind_iff, Ends.get_iff, onward_ok, Ends.pure_iff, onward_ok,
    Path.absoluteFrom_of_isPlain plain, Ends.bind_iff]
  refine Ends.refused ?_ fun _ _ _ holds => holds
  rw [Ends.onDisk_iff]
  refine (Disk.makeDirectories_ends root plain.parent).mono fun r middle reached => ?_
  obtain ⟨tree, grown, success⟩ := reached
  cases r with
  | error fault => exact ⟨tree, grown⟩
  | ok _ =>
    obtain ⟨directory, into, before_there⟩ := success rfl
    rw [mapError_ok, onward_ok]
    refine Ends.refused ?_ fun _ _ _ holds => holds
    refine (makeFresh_ends tree plain.parent undivided attempts).mono fun r after fresh => ?_
    cases r with
    | error fault =>
      have same : after.disk = middle := fresh
      dsimp only
      rw [same]
      exact ⟨tree, grown⟩
    | ok workspace =>
      obtain ⟨name, other, rfl, named, free, fits, made⟩ := fresh
      obtain rfl := into.unique made.above
      exact ⟨middle, name, directory, rfl, tree, grown, before_there, named, free, fits, made⟩

end Making

end Workspace

/-! ## What a job leaves -/

namespace Disk

variable {before middle after : Disk} {top : Location}

/-- Whatever changes below a directory in which nothing lay, the routes that were there stay. -/
theorem KeepsRoutes.changeBelow (kept : KeepsRoutes before middle)
    (vacant : ∀ location, top.IsBelow location → before.tree.get? location = none)
    (same : SameBut top.IsBelow middle after) : KeepsRoutes before after := by
  intro location there
  have outside : ¬ top.IsBelow location := by
    intro below
    rw [vacant location below] at there
    simp at there
  exact (kept location there).trans (same location outside)

theorem KeepsRoutes.trans (first : KeepsRoutes before middle) (second : KeepsRoutes middle after) :
    KeepsRoutes before after := by
  intro location there
  have same := first location there
  refine same.trans (second location ?_)
  rw [same.1]
  exact there

/-- At a location there is what was there, or the archive, or, where there was nothing, at most a new
directory that a part of the archive's path leads to. -/
def UndisturbedAt (archive : Path) (before after : Disk) (location : Location) : Prop :=
  SameAt before after location ∨ after.Places archive location ∨
    before.tree.get? location = none ∧ (after.tree.get? location = none ∨
      after.tree.get? location = some .directory ∧
        ∃ names, names <+: archive.parent.names ∧ after.LeadsInto ⟨archive.anchor, names⟩ location)

/-- All is as it was, but for the archive and new directories above it. -/
def Undisturbed (archive : Path) (before after : Disk) : Prop :=
  ∀ location, UndisturbedAt archive before after location

theorem Grown.undisturbed {archive : Path} (grown : Grown archive.parent before after) :
    Undisturbed archive before after := by
  intro location
  rcases grown location with same | ⟨vacant, made⟩
  · exact .inl same
  · exact .inr (.inr ⟨vacant, .inr made⟩)

/-- A directory is there, and an archive to which no links lead is to be neither in it nor below it. -/
structure LiesOutside (disk : Disk) (archive : Path) (root : Location) : Prop where
  there : disk.tree.get? root = some .directory
  straight : disk.LeadsStraight archive
  apart : ¬ root <:+ archive.parent.names.reverse

/-- Directories that are made above an archive make no difference around one that it lies outside of. -/
theorem Grown.sameAround {archive : Path} {root location : Location} (grown : Grown archive.parent before after)
    (tree : before.tree.IsTree) (plain : archive.IsPlain) (outside : before.LiesOutside archive root)
    (around : root.IsAround location) : SameAt before after location := by
  rcases grown location with same | ⟨vacant, -, names, start, leads⟩
  · exact same
  exfalso
  rcases around with above | below
  · have there := outside.there
    rw [tree.vacant_within vacant above] at there
    cases there
  · have part : names.reverse <:+ archive.parent.names.reverse := List.reverse_suffix.mpr start
    have spelled : location = names.reverse := by
      refine leads.eq_spelled (fun place target above link => ?_)
        ⟨plain.absolute, fun name member => plain.parent.named name (start.subset member)⟩
      exact outside.straight.parent place target (above.trans part) (grown.was_there nofun link)
    exact outside.apart (below.trans (spelled ▸ part))

end Disk

namespace Workspace

open Disk (SameAt Grown StaysBelow KeepsRoutes OnlyAt Undisturbed UndisturbedAt)

variable {archive : Path} {before middle ready worked after : Disk} {name : String}
  {directory top : Location}

/-! ## A workspace in use -/

theorem Acquired.vacant (acquired : Acquired archive before middle name directory ready) :
    ∀ location, Location.IsBelow (name :: directory) location → ready.tree.get? location = none := by
  intro location below
  rw [(acquired.made.others location below.2).1]
  exact acquired.tree.vacant_within acquired.made.vacant below.1

theorem Acquired.isBare (acquired : Acquired archive before middle name directory ready) :
    ready.IsBare (name :: directory) := by
  intro location entry below held
  rw [acquired.vacant location below] at held
  cases held

/-- What a job in a workspace may change: what lies in it, and after that the archive. -/
def Worked (archive : Path) (top : Location) (before after : Disk) : Prop :=
  ∃ middle, StaysBelow top before middle ∧ OnlyAt archive middle after

theorem Worked.isTree (work : Worked archive top before after) : after.tree.IsTree := by
  obtain ⟨middle, below, only⟩ := work
  exact only.isTree below.tree

section Worked
variable (acquired : Acquired archive before middle name directory ready)

include acquired

theorem StaysBelow.keepsRoutes (below : StaysBelow (name :: directory) ready worked) :
    KeepsRoutes ready worked :=
  KeepsRoutes.changeBelow (fun location _ => .refl ready location) acquired.vacant below.same

theorem Worked.keepsRoutes (work : Worked archive (name :: directory) ready worked) :
    KeepsRoutes ready worked := by
  obtain ⟨changed, below, only⟩ := work
  exact (StaysBelow.keepsRoutes acquired below).trans only.keepsRoutes

/-- The archive's place is beside the workspace. -/
theorem Acquired.place_eq (plain : archive.IsPlain) (kept : KeepsRoutes ready worked)
    {location : Location} (places : worked.Places archive location) :
    location = archive.name :: directory := by
  have above := acquired.made.above.kept acquired.tree plain.parent.absolute acquired.made.keepsRoutes
  obtain ⟨other, leads, rfl⟩ := places
  rw [(above.kept acquired.made.tree plain.parent.absolute kept).unique leads]

/-- What lies outside of the workspace while only that changes lay there before, if it is no directory. -/
theorem StaysBelow.was_there (below : StaysBelow (name :: directory) ready worked) {location : Location}
    {entry : Entry} (outside : ¬ Location.IsBelow (name :: directory) location) (no_directory : entry ≠ .directory)
    (held : worked.tree.get? location = some entry) : before.tree.get? location = some entry := by
  rw [(below.same _ outside).1] at held
  by_cases new : location = name :: directory
  · rw [new, acquired.made.made] at held
    exact absurd (Option.some.inj held).symm no_directory
  · rw [(acquired.made.others _ new).1] at held
    exact acquired.grown.was_there no_directory held

/-- What lies at the archive's place while only the workspace changes lay there before, if it is no
directory. -/
theorem StaysBelow.held_before (plain : archive.IsPlain) (root : before.tree.IsTree)
    (below : StaysBelow (name :: directory) ready worked) {location : Location} {entry : Entry}
    (places : worked.Places archive location) (held : worked.tree.get? location = some entry)
    (no_directory : entry ≠ .directory) :
    before.Places archive location ∧ before.tree.get? location = some entry := by
  obtain rfl := acquired.place_eq plain (keepsRoutes acquired below) places
  have was := was_there acquired below Location.not_isBelow_beside no_directory held
  rcases acquired.reached with leads | vacant
  · exact ⟨⟨directory, leads, rfl⟩, was⟩
  · rw [root.vacant_below (by simp [vacant])] at was
    cases was

/-- Where no link lay at the archive's path, none does while only the workspace changes. -/
theorem StaysBelow.endsInNoLink (plain : archive.IsPlain) (root : before.tree.IsTree)
    (no_link : before.EndsInNoLink archive) (below : StaysBelow (name :: directory) ready worked) :
    worked.EndsInNoLink archive := by
  intro location places target link
  obtain ⟨was, held⟩ := held_before acquired plain root below places link nofun
  exact no_link location was target held

theorem Acquired.find (plain : archive.IsPlain) (kept : KeepsRoutes ready worked) :
    worked.find .look (archive.parent.child name) = .ok (.entry (name :: directory) .directory) := by
  have rooted := (plain.parent.child acquired.named).absolute
  exact (acquired.made.leads.kept acquired.made.tree rooted kept).find acquired.fits

theorem Acquired.onlyInto (plain : archive.IsPlain) (kept : KeepsRoutes ready worked) :
    OnlyInto worked (archive.parent.child name) (name :: directory) := by
  intro later same place leads
  have kept := kept.changeBelow acquired.vacant same
  have rooted := (plain.parent.child acquired.named).absolute
  exact leads.unique (acquired.made.leads.kept acquired.made.tree rooted kept)

/-- What was there when the workspace was made is there when it has been cleared away. -/
private theorem routes_cleared {issues : List CleanupIssue} (kept : KeepsRoutes ready worked)
    (released : Released (name :: directory) worked issues after) : KeepsRoutes middle after := by
  intro location there
  have outside : ¬ name :: directory <:+ location := by
    intro within
    rw [acquired.tree.vacant_within acquired.made.vacant within] at there
    simp at there
  have other : location ≠ name :: directory := by
    rintro rfl
    exact outside List.suffix_rfl
  have first := acquired.made.others location other
  rw [← first.1] at there
  exact first.trans ((kept location there).trans (released.same location outside))

/-- The archive's place is the same when the workspace has been cleared away. -/
theorem Released.places {issues : List CleanupIssue} (plain : archive.IsPlain) (kept : KeepsRoutes ready worked)
    (released : Released (name :: directory) worked issues after) :
    after.Places archive (archive.name :: directory) :=
  ⟨directory, acquired.made.above.kept acquired.tree plain.parent.absolute
    (routes_cleared acquired kept released), rfl⟩

/-- When a workspace has been cleared away, only the archive is different. -/
theorem Released.undisturbed (plain : archive.IsPlain)
    (work : Worked archive (name :: directory) ready worked)
    (released : Released (name :: directory) worked [] after) : Undisturbed archive before after := by
  have kept := routes_cleared acquired (work.keepsRoutes acquired) released
  have places_cleared := released.places acquired plain (work.keepsRoutes acquired)
  intro location
  by_cases within : name :: directory <:+ location
  · -- in the place of the workspace there was nothing before, and there is nothing now
    have new := acquired.tree.vacant_within acquired.made.vacant within
    have vacant : before.tree.get? location = none := by
      rcases acquired.grown location with same | ⟨vacant, -⟩
      · exact same.1.symm.trans new
      · exact vacant
    exact .inr (.inr ⟨vacant, .inl (released.tree.vacant_within (released.gone rfl) within)⟩)
  · have other : location ≠ name :: directory := by
      rintro rfl
      exact within List.suffix_rfl
    obtain ⟨changed, below, only⟩ := work
    have last := released.same location within
    have first := (acquired.made.others location other).trans
      (below.same location fun inside => within inside.1)
    have unchanged (same : SameAt changed worked location) :
        UndisturbedAt archive before after location := by
      have all := first.trans (same.trans last)
      rcases acquired.grown location with before_same | ⟨vacant, made, names, start, leads⟩
      · exact .inl (before_same.trans all)
      · refine .inr (.inr ⟨vacant, .inr ⟨all.1.trans made, names, start, ?_⟩⟩)
        have rooted : Path.isAbsolute ⟨archive.anchor, names⟩ = true := plain.absolute
        exact leads.kept acquired.tree rooted kept
    rcases only with rfl | ⟨place, places, replaced⟩
    · exact unchanged (.refl worked location)
    · by_cases here : location = place
      · rw [here, acquired.place_eq plain (StaysBelow.keepsRoutes acquired below) places]
        exact .inr (.inl places_cleared)
      · exact unchanged (replaced.others location here)

/-! ## Where the archive goes -/

theorem Acquired.keepsRoutes : KeepsRoutes before ready :=
  acquired.grown.keepsRoutes.trans acquired.made.keepsRoutes

/-- No path led into the workspace before that was made. -/
theorem Acquired.not_inside {path : Path} {purpose : FileTree.Purpose} {found : FileTree.Found}
    (root : before.tree.IsTree) (absolute : path.isAbsolute = true) (reached : before.find purpose path = .ok found) :
    ¬ Location.IsBelow (name :: directory) found.location := by
  rintro ⟨within, other⟩
  have alike : Disk.StartsAlike before before path := .of_absolute absolute
  have above := FileTree.above_of_resolve root alike.start (Disk.resolve_of_find reached)
  have vacant : before.tree.get? (name :: directory) = none := by
    rcases acquired.grown (name :: directory) with same | ⟨vacant, -⟩
    · exact same.1.symm.trans acquired.made.vacant
    · exact vacant
  cases place : found.location with
  | nil =>
    rw [place] at within
    cases List.suffix_nil.mp within
  | cons last rest =>
    rw [place] at within above other
    have inside := (List.suffix_cons_iff.mp within).resolve_left (Ne.symm other)
    rw [List.tail_cons, root.vacant_within vacant inside] at above
    cases above

/-- A path that could be followed leads to the same place while only the workspace changes. -/
theorem StaysBelow.find_look {path : Path} {found : FileTree.Found} (root : before.tree.IsTree)
    (absolute : path.isAbsolute = true) (below : StaysBelow (name :: directory) ready worked)
    (reached : before.find .look path = .ok found) :
    worked.find .look path = .ok (worked.tree.found found.location) := by
  have outside := acquired.not_inside root absolute reached
  have kept := (acquired.keepsRoutes).trans (keepsRoutes acquired below)
  exact Disk.find_look_kept root (.of_absolute absolute) kept
    (fun free target link => free target (was_there acquired below outside nofun link)) reached

/-- An archive goes where its path led to before the workspace was made, if it led anywhere. -/
theorem StaysBelow.writes_found {location : Location} {found : FileTree.Found} (plain : archive.IsPlain)
    (root : before.tree.IsTree) (below : StaysBelow (name :: directory) ready worked)
    (reached : before.find .look archive = .ok found) (writes : worked.WritesAt archive location) :
    location = found.location := by
  obtain ⟨other, also, rfl⟩ := writes
  have same := (find_look acquired root plain.absolute below reached).symm.trans (Disk.find_look_of_write also)
  rw [← Except.ok.inj same, FileTree.found_location]

theorem StaysBelow.endsInName (plain : archive.IsPlain) (root : before.tree.IsTree)
    (settled : before.IsSettled archive) (below : StaysBelow (name :: directory) ready worked) :
    worked.EndsInName archive := by
  rcases settled with no_link | ⟨found, reached, free⟩
  · exact (endsInNoLink acquired plain root no_link below).endsInName plain
  · refine Disk.endsInName_of_free below.tree plain fun last rest writes _ => ?_
    have place := writes_found acquired plain root below reached writes
    rw [Bool.eq_false_iff]
    intro nul
    have inside : last ∈ found.location.path.names := by simp [Location.path, ← place]
    exact absurd (Path.hasNul_of_mem_names inside nul) (by simp [free])

/-- An archive does not go into the workspace. -/
theorem StaysBelow.writes_outside {location : Location} (plain : archive.IsPlain) (root : before.tree.IsTree)
    (settled : before.IsSettled archive) (below : StaysBelow (name :: directory) ready worked)
    (writes : worked.WritesAt archive location) : ¬ Location.IsBelow (name :: directory) location := by
  rcases settled with no_link | ⟨found, reached, -⟩
  · cases location with
    | nil => exact fun inside => absurd (List.suffix_nil.mp inside.1) (by simp)
    | cons last rest =>
      have places := writes.places plain (endsInNoLink acquired plain root no_link below)
      rw [acquired.place_eq plain (keepsRoutes acquired below) places]
      exact Location.not_isBelow_beside
  · obtain rfl := writes_found acquired plain root below reached writes
    exact acquired.not_inside root plain.absolute reached

/-- Where an archive was written, there is not the workspace either. -/
theorem StaysBelow.written_outside {location : Location} {content : Content} (plain : archive.IsPlain)
    (root : before.tree.IsTree) (settled : before.IsSettled archive)
    (below : StaysBelow (name :: directory) ready worked) (writes : worked.WritesAt archive location)
    (written : Disk.Written location content worked after) : ¬ name :: directory <:+ location := by
  intro within
  by_cases here : location = name :: directory
  · subst here
    have top := (keepsRoutes acquired below _ (.inl acquired.made.made)).1.trans acquired.made.made
    exact (written.was _ top).isLeaf.1 rfl
  · exact writes_outside acquired plain root settled below writes ⟨within, here⟩

/-- Where an archive goes is no device, if its path did not lead to one. -/
theorem StaysBelow.no_device {location : Location} (plain : archive.IsPlain) (root : before.tree.IsTree)
    (settled : before.IsSettled archive) (no_device : before.EndsInNoDevice archive)
    (below : StaysBelow (name :: directory) ready worked) (writes : worked.WritesAt archive location) :
    worked.tree.get? location ≠ some .sink := by
  intro sink
  have outside := writes_outside acquired plain root settled below writes
  have was : before.tree.get? location = some .sink := was_there acquired below outside nofun sink
  rcases settled with no_link | ⟨found, reached, -⟩
  · cases location with
    | nil => cases was
    | cons last rest =>
      have places := writes.places plain (endsInNoLink acquired plain root no_link below)
      exact no_device.1 _ (held_before acquired plain root below places sink nofun).1 was
  · obtain rfl := writes_found acquired plain root below reached writes
    have alike : Disk.StartsAlike before before archive := .of_absolute plain.absolute
    have same := FileTree.eq_found_of_resolve root alike.start (Disk.resolve_of_find reached)
    rw [same, FileTree.found, was] at reached
    exact no_device.2 _ reached

/-- An archive that was written is found when the workspace has been cleared away. -/
theorem Released.find {compiled : Disk} {location : Location} {content : Content} {entry : Entry}
    {issues : List CleanupIssue} (plain : archive.IsPlain) (root : before.tree.IsTree)
    (settled : before.IsSettled archive) (below : StaysBelow (name :: directory) ready compiled)
    (writes : compiled.WritesAt archive location) (written : Disk.Written location content compiled worked)
    (held : worked.tree.get? location = some entry)
    (released : Released (name :: directory) worked issues after) :
    after.find .look archive = .ok (.entry location entry) := by
  have outside := StaysBelow.written_outside acquired plain root settled below writes written
  have followed : ∀ target, entry ≠ .link target := by
    obtain ⟨other, also, writable⟩ := written.writable
    obtain rfl := Option.some.inj (held.symm.trans also)
    exact writable.isLeaf.2
  have held := (released.same _ outside).1.trans held
  have kept := (StaysBelow.keepsRoutes acquired below).trans written.keepsRoutes
  rcases settled with no_link | ⟨found, reached, -⟩
  · have still_no_link := StaysBelow.endsInNoLink acquired plain root no_link below
    have places := written.places plain still_no_link writes
    obtain rfl := acquired.place_eq plain (StaysBelow.keepsRoutes acquired below) places
    have is_name := (released.tree archive.name directory (by simp [held])).2.1
    have into : compiled.LeadsInto archive.parent directory := by
      obtain ⟨other, leads, same⟩ := places
      rwa [(List.cons.inj same).2]
    have still : after.LeadsInto archive.parent directory := by
      obtain ⟨other, leads, same⟩ := released.places acquired plain kept
      rwa [(List.cons.inj same).2]
    have above : SameAt compiled after directory := by
      refine (written.others directory (by simp)).trans (released.same directory fun within => ?_)
      exact Nat.not_succ_le_self directory.length within.length_le
    obtain ⟨found, reached, -⟩ := writes
    exact Disk.find_of_sameAt plain is_name still_no_link reached into still above held followed
  · obtain rfl := StaysBelow.writes_found acquired plain root below reached writes
    have routes := acquired.grown.keepsRoutes.trans (routes_cleared acquired kept released)
    have there := Disk.find_look_kept root (.of_absolute plain.absolute) routes
      (fun _ target link => followed target (Option.some.inj (held.symm.trans link))) reached
    rwa [FileTree.found, held] at there

end Worked

/-- Whatever comes of a job in a workspace, it makes no difference around a directory that the archive lies outside
of. -/
theorem Released.sameAround {root location : Location} {issues : List CleanupIssue}
    (released : Released (name :: directory) worked issues after)
    (work : Worked archive (name :: directory) ready worked)
    (acquired : Acquired archive before middle name directory ready) (tree : before.tree.IsTree)
    (plain : archive.IsPlain) (outside : before.LiesOutside archive root) (around : root.IsAround location) :
    SameAt before after location := by
  have grown {location : Location} (around : root.IsAround location) : SameAt before middle location :=
    acquired.grown.sameAround tree plain outside around
  have there : middle.tree.get? root = some .directory := (grown (.inl List.suffix_rfl)).1.trans outside.there
  have spelled : directory = archive.parent.names.reverse :=
    acquired.made.above.eq_spelled (fun place target above link =>
      outside.straight.parent place target above (acquired.grown.was_there nofun link)) plain.parent
  -- what lies beside the workspace is around the directory only if it is on the way to it
  have beside {other : String} (around : root.IsAround (other :: directory)) : other :: directory <:+ root := by
    rcases around with above | below
    · exact above
    · rcases List.suffix_cons_iff.mp below with same | below
      · exact same ▸ List.suffix_rfl
      · exact absurd (spelled ▸ below) outside.apart
  have elsewhere {location : Location} (around : root.IsAround location) : ¬ name :: directory <:+ location := by
    intro within
    rw [acquired.tree.vacant_within acquired.made.vacant (beside (around.of_suffix within))] at there
    cases there
  obtain ⟨changed, below, only⟩ := work
  have first {location : Location} (around : root.IsAround location) : SameAt before changed location := by
    have other : location ≠ name :: directory := fun same => elsewhere around (same ▸ List.suffix_rfl)
    exact ((grown around).trans (acquired.made.others location other)).trans
      (below.same location fun inside => elsewhere around inside.1)
  have last : SameAt changed worked location := by
    rcases only with rfl | ⟨place, places, replaced⟩
    · exact .refl worked location
    refine replaced.others location ?_
    rintro rfl
    obtain rfl := acquired.place_eq plain (StaysBelow.keepsRoutes acquired below) places
    -- the archive would lie on the way to the directory, and so be one
    have held : before.tree.get? (archive.name :: directory) = some .directory := by
      by_contra none_here
      rcases eq_or_ne root (archive.name :: directory) with same | different
      · exact none_here (same ▸ outside.there)
      · have vacant := tree.vacant_isBelow none_here ⟨beside around, different⟩
        rw [outside.there] at vacant
        cases vacant
    exact (replaced.was _ ((first around).1.trans held)).1 rfl
  exact ((first around).trans last).trans (released.same location (elsewhere around))

/-! ## Running in a workspace -/

variable {α : Type} {body : Path → Job α} {world : World} {start : String}

/-- The run of a job in a fresh workspace, before that is cleared away. -/
def entered (archive : Path) (start : String) (body : Path → Job α) : Job α := do
  let workspace ← acquire archive start
  Job.record .debug source s!"acquired workspace {workspace.text}"
  body workspace

theorem entered_iff {workspace : Path} {ready : World} {post : Except Fault α → World → Prop}
    (run : (acquire archive start).run world = (.ok workspace, ready)) :
    Ends (entered archive start body) world post ↔ Ends (body workspace) { ready with log := ready.log ++
      [⟨.debug, source, s!"acquired workspace {workspace.text}"⟩] } post := by
  unfold entered
  rw [Ends.bind_iff, Ends.of_run run, onward_ok, Ends.bind_iff, Ends.record_iff, onward_ok]

/-- A job is run in a fresh workspace, unless making that is refused. -/
theorem entered_ends {post : Except Fault α → World → Prop} (root : world.disk.tree.IsTree)
    (plain : archive.IsPlain) (undivided : '/' ∉ start.toList)
    (refused : ∀ fault after, post (.error fault) after)
    (works : ∀ middle name directory (ready : World),
      Acquired archive world.disk middle name directory ready.disk →
        Ends (body (archive.parent.child name)) ready post) :
    Ends (entered archive start body) world post := by
  unfold entered
  rw [Ends.bind_iff]
  refine (acquire_ends root plain undivided).mono fun r ready acquired => ?_
  cases r with
  | error fault => exact refused fault ready
  | ok workspace =>
    obtain ⟨middle, name, directory, rfl, acquired⟩ := acquired
    rw [onward_ok, Ends.bind_iff, Ends.record_iff, onward_ok]
    exact works middle name directory _ acquired

/-- What cannot be cleared away of the workspace that a job was run in, and why. -/
def remains (archive : Path) (start : String) (body : Path → Job α) : Job (List CleanupIssue) := do
  let result ← entered archive start fun workspace =>
    return (workspace, ← Job.attempt (body workspace))
  Job.onDisk (release result.1)

/-- Warnings only go to the log. -/
theorem warn_ends (issues : List CleanupIssue) (world : World) :
    Ends (warn issues) world fun r after => r = .ok () ∧ ∃ log, after = { world with log := log } := by
  have upholds : Upholds (warn issues) fun after => ∃ log, after = { world with log := log } := by
    unfold warn
    induction issues with
    | nil => exact .pure ()
    | cons issue issues ih =>
      refine .bind (fun other same => ⟨⟨(), rfl⟩, ?_⟩) fun _ => ih
      obtain ⟨log, rfl⟩ := same
      exact ⟨_, rfl⟩
  refine (upholds world ⟨world.log, rfl⟩).mono fun r after ends => ?_
  obtain ⟨⟨_, rfl⟩, same⟩ := ends
  exact ⟨rfl, same⟩

/-- A job in a workspace ends as it does when it is run in a new one, or in a fault of the disk. If it leaves the
directories and links as they were, it is the former, and the workspace is cleared away as far as that is possible. -/
theorem within_concludes {post : Except Fault α → World → Prop} (root : world.disk.tree.IsTree)
    (plain : archive.IsPlain) (undivided : '/' ∉ start.toList)
    (refused : ∀ fault after, Grown archive.parent world.disk after.disk → post (.error fault) after)
    (works : ∀ middle name directory (ready : World),
      Acquired archive world.disk middle name directory ready.disk →
      (∀ {β : Type} (job : Path → Job β) (post : Except Fault β → World → Prop),
        Ends (entered archive start job) world post ↔ Ends (job (archive.parent.child name)) ready post) →
      Ends (body (archive.parent.child name)) ready fun r worked => ∀ ended (after : World),
        ended = r ∨ (∃ fault, ended = .error (.file fault)) →
        (worked.disk.tree.IsTree → KeepsRoutes ready.disk worked.disk → ended = r ∧
          ∃ issues, Ends (remains archive start body) world (fun left _ => left = .ok issues) ∧
            Released (name :: directory) worked.disk issues after.disk) → post ended after) :
    Ends (within archive start body) world post := by
  have acquired := acquire_ends root plain undivided
  obtain ⟨r, ready, run⟩ := Ends.exists_run (acquire archive start) world
  unfold within
  rw [Ends.bind_iff, Ends.of_run run]
  rw [Ends.of_run run] at acquired
  cases r with
  | error fault => exact refused fault ready acquired.2
  | ok workspace =>
    obtain ⟨middle, name, directory, rfl, acquired⟩ := acquired
    have work := works middle name directory _ (by exact acquired) fun job post => entered_iff run
    rw [onward_ok, Ends.bind_iff, Ends.record_iff, onward_ok, Ends.bind_iff, Ends.attempt_iff]
    obtain ⟨r, worked, job⟩ := Ends.exists_run (body (archive.parent.child name)) { ready with
      log := ready.log ++ [⟨.debug, source, s!"acquired workspace {(archive.parent.child name).text}"⟩] }
    rw [Ends.of_run job] at work ⊢
    rw [onward_ok, Ends.bind_iff, Ends.onDisk_iff]
    obtain ⟨left, cleared, clearing⟩ := Ends.exists_run (release (archive.parent.child name)) worked.disk
    have released (tree : worked.disk.tree.IsTree) (kept : KeepsRoutes ready.disk worked.disk) :
        ∃ issues, left = .ok issues ∧ Released (name :: directory) worked.disk issues cleared := by
      have released := release_ends tree (plain.parent.child acquired.named) acquired.free
        (acquired.find plain kept) (acquired.onlyInto plain kept)
        (by simp [Path.names_child acquired.named]) (by simp)
      rwa [Ends.of_run clearing] at released
    rw [Ends.of_run clearing]
    cases left with
    | error fault =>
      refine work _ _ (.inr ⟨fault, rfl⟩) fun tree kept => ?_
      obtain ⟨issues, same, -⟩ := released tree kept
      cases same
    | ok issues =>
      have remain : Ends (remains archive start body) world fun left _ => left = .ok issues := by
        unfold remains
        rw [Ends.bind_iff, entered_iff run, Ends.bind_iff, Ends.attempt_iff, Ends.of_run job, onward_ok,
          Ends.pure_iff, onward_ok, Ends.onDisk_iff, Ends.of_run clearing, mapError_ok]
      rw [mapError_ok, onward_ok, Ends.bind_iff]
      refine (warn_ends issues _).mono fun warned after ends => ?_
      obtain ⟨rfl, log, rfl⟩ := ends
      rw [onward_ok, Ends.ofExcept_iff]
      refine work _ _ (.inl rfl) fun tree kept => ⟨rfl, issues, remain, ?_⟩
      obtain ⟨_, same, released⟩ := released tree kept
      obtain rfl := Except.ok.inj same
      exact released

/-- A job that changes only what lies in its workspace and the archive ends as it does when it is run in a new
one, which is then cleared away as far as that is possible. -/
theorem within_released {post : Except Fault α → World → Prop} (root : world.disk.tree.IsTree)
    (plain : archive.IsPlain) (undivided : '/' ∉ start.toList)
    (refused : ∀ fault after, Grown archive.parent world.disk after.disk → post (.error fault) after)
    (works : ∀ middle name directory (ready : World),
      Acquired archive world.disk middle name directory ready.disk →
      (∀ {β : Type} (job : Path → Job β) (post : Except Fault β → World → Prop),
        Ends (entered archive start job) world post ↔ Ends (job (archive.parent.child name)) ready post) →
      Ends (body (archive.parent.child name)) ready fun r worked =>
        Worked archive (name :: directory) ready.disk worked.disk ∧
        ∀ issues (after : World),
          Ends (remains archive start body) world (fun left _ => left = .ok issues) →
          Released (name :: directory) worked.disk issues after.disk → post r after) :
    Ends (within archive start body) world post := by
  refine within_concludes root plain undivided refused fun middle name directory ready acquired enters => ?_
  refine (works middle name directory ready acquired enters).mono fun r worked ends ended after _ cleared => ?_
  obtain ⟨work, done⟩ := ends
  obtain ⟨rfl, issues, remain, released⟩ := cleared work.isTree (work.keepsRoutes acquired)
  exact done issues after remain released

/-- A job in a workspace ends as it does when it is run in a new one, and if nothing remains of that,
nothing is disturbed by it. -/
theorem within_ends {post : Except Fault α → World → Prop} (root : world.disk.tree.IsTree)
    (plain : archive.IsPlain) (undivided : '/' ∉ start.toList)
    (cleared : Ends (remains archive start body) world fun r _ => ∀ issues, r = .ok issues → issues = [])
    (refused : ∀ fault after, Undisturbed archive world.disk after.disk → post (.error fault) after)
    (works : ∀ middle name directory (ready : World),
      Acquired archive world.disk middle name directory ready.disk →
      (∀ {β : Type} (job : Path → Job β) (post : Except Fault β → World → Prop),
        Ends (entered archive start job) world post ↔ Ends (job (archive.parent.child name)) ready post) →
      Ends (body (archive.parent.child name)) ready fun r worked =>
        Worked archive (name :: directory) ready.disk worked.disk ∧
        ∀ after : World, Released (name :: directory) worked.disk [] after.disk →
          Undisturbed archive world.disk after.disk → post r after) :
    Ends (within archive start body) world post := by
  refine within_released root plain undivided (fun fault after grown => refused fault after grown.undisturbed)
    fun middle name directory ready acquired enters => ?_
  refine (works middle name directory ready acquired enters).mono fun r worked ends => ?_
  obtain ⟨work, done⟩ := ends
  refine ⟨work, fun issues after left released => ?_⟩
  have none_left := left.and cleared
  obtain ⟨_, _, run⟩ := Ends.exists_run (remains archive start body) world
  rw [Ends.of_run run] at none_left
  obtain ⟨rfl, none_left⟩ := none_left
  obtain rfl := none_left issues rfl
  exact done after released (released.undisturbed acquired plain work)

end Workspace
end JavaStubs

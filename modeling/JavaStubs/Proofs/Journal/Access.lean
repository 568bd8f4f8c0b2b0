import JavaStubs.Proofs.Files.Below
import JavaStubs.Proofs.Journal.Appending

/-!
Rights to what a journal keeps. As long as the rights that new files are denied are none of their owner's,
what is made can be read and written, and names can be looked up in new directories. So a right that there is
to everything on a shelf is one to what is added to it as well.
-/

/-! ## Rights to what is new -/

namespace JavaStubs.Disk

variable {disk : Disk} {location : Location} {name : String} {directory : Location} {entry : Entry}
  {mode : Nat}

/-- New files are denied no right of their owner. -/
def SparesOwner (disk : Disk) : Prop := disk.mask % 0o1000 < 0o100

theorem modeAt_withNew_self :
    (disk.withNew (name :: directory) entry mode).modeAt (name :: directory) = disk.masked mode := by
  have held : (disk.tree.put (name :: directory) entry).get? (name :: directory) = some entry := by
    rw [FileTree.get?_put _ _ _ (by simp), if_pos rfl]
  have none_there : (disk.modes.filter (·.1 != name :: directory)).lookup (name :: directory) = none := by
    rw [FileTree.lookup_filter_ne, if_pos rfl]
  unfold withNew withMode
  simp only [held, Option.getD_some]
  unfold modeAt
  split
  · next usual =>
    simp only [none_there, held, Option.getD_none, Option.getD_some]
    exact (beq_iff_eq.mp usual).symm
  · simp only [List.lookup_cons_self, Option.getD_some]

theorem enters_of_grants (granted : disk.grants .run location = true) : disk.enters location = true := by
  unfold enters
  cases set : disk.modes.lookup location with
  | none => rfl
  | some mode =>
    rw [grants, modeAt, set] at granted
    exact granted

private theorem masked_directory (spares : disk.SparesOwner) (right : Right) :
    (disk.masked 0o777 &&& right.bit) ≠ 0 := by
  have all : ∀ denied < 0o100, ((0o777 &&& (0o7777 - denied)) &&& 0o400) ≠ 0 ∧
      ((0o777 &&& (0o7777 - denied)) &&& 0o200) ≠ 0 ∧ ((0o777 &&& (0o7777 - denied)) &&& 0o100) ≠ 0 := by
    decide
  obtain ⟨read, write, run⟩ := all _ spares
  cases right with
  | read => exact read
  | write => exact write
  | run => exact run

private theorem masked_file (spares : disk.SparesOwner) {right : Right} (no_run : right ≠ .run) :
    (disk.masked 0o666 &&& right.bit) ≠ 0 := by
  have all : ∀ denied < 0o100, ((0o666 &&& (0o7777 - denied)) &&& 0o400) ≠ 0 ∧
      ((0o666 &&& (0o7777 - denied)) &&& 0o200) ≠ 0 := by decide
  obtain ⟨read, write⟩ := all _ spares
  cases right with
  | read => exact read
  | write => exact write
  | run => exact absurd rfl no_run

/-- In a new directory there is every right: to list it, to make what lies in it and to look up names. -/
theorem grants_new_directory (spares : disk.SparesOwner) (right : Right) :
    (disk.withNew (name :: directory) .directory 0o777).grants right (name :: directory) = true := by
  rw [grants, modeAt_withNew_self]
  exact bne_iff_ne.mpr (masked_directory spares right)

theorem enters_new_directory (spares : disk.SparesOwner) :
    (disk.withNew (name :: directory) .directory 0o777).enters (name :: directory) = true :=
  enters_of_grants (grants_new_directory spares .run)

/-- A new file can be read and written. -/
theorem grants_new_file {content : Content} {right : Right} (spares : disk.SparesOwner)
    (no_run : right ≠ .run) :
    (disk.withNew (name :: directory) (.file content) 0o666).grants right (name :: directory) = true := by
  rw [grants, modeAt_withNew_self]
  exact bne_iff_ne.mpr (masked_file spares no_run)

/-- A file that is written to keeps its rights. -/
theorem grants_withEntry {content other : Content} {right : Right}
    (file : disk.tree.get? (name :: directory) = some (.file content)) :
    (disk.withEntry (name :: directory) (.file other)).grants right (name :: directory) =
      disk.grants right (name :: directory) := by
  rw [grants, grants, modeAt, modeAt, file, get?_withEntry_self]
  rfl

end JavaStubs.Disk

/-! ## Rights to a shelf -/

namespace JavaStubs.Journal

open Disk (SparesOwner)

variable {base : Path} {root : Location} {shelf shelf' : Shelf} {before after : Disk} {day : String}
  {number : Nat} {note : Note} {right : Right}

/-- There is a right to a directory, names can be looked up in it, and new files are denied no right of their
owner. -/
structure IsOpenTo (right : Right) (disk : Disk) (root : Location) : Prop where
  spares : disk.SparesOwner
  top : disk.grants right root = true ∧ disk.enters root = true

/-- There is a right to a directory, to the days of a shelf in it and to their files, and names can be
looked up. -/
structure Allows (right : Right) (root : Location) (disk : Disk) (shelf : Shelf) : Prop where
  top : disk.grants right root = true ∧ disk.enters root = true
  ofDay : ∀ day, (shelf day).isSome →
    disk.grants right (day :: root) = true ∧ disk.enters (day :: root) = true
  ofFile : ∀ day number, number < (shelf.files day).length →
    disk.grants right (fileName number :: day :: root) = true

theorem Allows.empty {disk : Disk}
    (top : disk.grants right root = true ∧ disk.enters root = true) : Allows right root disk .empty :=
  ⟨top, fun _ => nofun, fun _ _ below => absurd below (by simp)⟩

theorem Allows.opened (is : IsShelf before.tree root shelf) (allows : Allows right root before shelf)
    (spares : before.SparesOwner) (opens : Opens base root day before after) :
    Allows right root after (shelf.opened day) := by
  obtain ⟨-, ⟨there, rfl⟩ | ⟨vacant, rfl⟩⟩ := opens
  · rwa [Shelf.opened_of_some (is.day_eq_some there)]
  have same := @Disk.withNew_sameBut before (day :: root) .directory 0o777
  refine ⟨?_, fun other there => ?_, fun other number below => ?_⟩
  · have kept := same root (location_ne (by simp))
    rw [kept.grants, kept.enters]
    exact allows.top
  · by_cases new : other = day
    · subst new
      exact ⟨Disk.grants_new_directory spares right, Disk.enters_new_directory spares⟩
    · have kept := same (other :: root) (by simpa using new)
      rw [kept.grants, kept.enters]
      rw [Shelf.opened, Function.update_of_ne new] at there
      exact allows.ofDay other there
  · have kept := same (fileName number :: other :: root) (Ne.symm (location_ne (by simp)))
    rw [kept.grants]
    rw [Shelf.files_opened] at below
    exact allows.ofFile other number below

/-- A file of a day is written, which may be a new one. -/
theorem Allows.added (allows : Allows right root before shelf) (there : (shelf day).isSome)
    (within : number ≤ (shelf.files day).length)
    (same : Disk.SameBut (· = fileName number :: day :: root) before after)
    (granted : after.grants right (fileName number :: day :: root) = true) :
    Allows right root after (shelf.added day number note) := by
  refine ⟨?_, fun other known => ?_, fun other another below => ?_⟩
  · have kept := same root (location_ne (by simp only [List.length_cons]; omega))
    rw [kept.grants, kept.enters]
    exact allows.top
  · have kept := same (other :: root) (location_ne (by simp))
    rw [kept.grants, kept.enters]
    refine allows.ofDay other ?_
    by_cases here : other = day
    · rwa [here]
    · rwa [Shelf.added, Function.update_of_ne here] at known
  · by_cases here : fileName another :: other :: root = fileName number :: day :: root
    · rwa [here]
    · rw [(same _ here).grants]
      refine allows.ofFile other another ?_
      rw [Shelf.files_added] at below
      split at below
      · next equal =>
        subst equal
        have other_file : another ≠ number := by
          rintro rfl
          exact here rfl
        rw [length_addTo within] at below
        omega
      · exact below

theorem Opens.mask {disk : Disk} (opens : Opens base root day before disk) : disk.mask = before.mask := by
  obtain ⟨-, ⟨-, rfl⟩ | ⟨-, rfl⟩⟩ := opens
  · rfl
  · rfl

theorem Opens.sparesOwner (opens : Opens base root day before after) (spares : before.SparesOwner) :
    after.SparesOwner := by
  rw [SparesOwner, opens.mask]
  exact spares

/-- Whatever adding an event comes to, there is a right to read or to write to what is there then. -/
theorem Allows.change {maxBytes : Int} {now : Instant} {event : Value} {r : Except Fault Path}
    (is : IsShelf before.tree root shelf) (allows : Allows right root before shelf)
    (spares : before.SparesOwner) (no_run : right ≠ .run)
    (change : Change ⟨base, maxBytes⟩ root now event before shelf r after shelf') :
    after.SparesOwner ∧ Allows right root after shelf' := by
  cases change with
  | nothing fault => exact ⟨spares, allows⟩
  | opened opens => exact ⟨opens.sparesOwner spares, allows.opened is spares opens⟩
  | @made fields middle number checked opens fits aims last vacant =>
    have spares_still := opens.sparesOwner spares
    rw [← Shelf.added_opened]
    refine ⟨spares_still, (allows.opened is spares opens).added (by simp [Shelf.opened])
      (by simpa using aims.within) (Disk.withNew_sameBut _ _) ?_⟩
    exact Disk.grants_new_file spares_still no_run
  | @added fields middle number old checked opens fits aims file space there =>
    have opened := allows.opened is spares opens
    rw [← Shelf.added_opened]
    refine ⟨opens.sparesOwner spares, opened.added (by simp [Shelf.opened]) (by simpa using aims.within)
      (Disk.withEntry_sameBut _) ?_⟩
    rw [Disk.grants_withEntry there]
    refine opened.ofFile now.dayName number ?_
    rw [Shelf.files_opened]
    exact (List.getElem?_eq_some_iff.mp file).1

end JavaStubs.Journal

import JavaStubs.Proofs.Implementor.Journaling
import JavaStubs.Proofs.Journal.Accepting
import JavaStubs.Proofs.Workspace.Inside

/-!
That a journal changes nothing else. Adding an event changes nothing outside of the directory of the journal,
and a journal that has not been used yet takes any event, if its directory is empty and may be written to. So
as long as types have names, an invocation with a journal ends in what it ends in without one, and all that is
different then is in the directory of the journal.
-/
namespace JavaStubs

/-- Two worlds that differ in nothing but what lies in a directory, and in the file that a journal has
written to last. -/
structure World.AlikeBut (directory : Location) (world other : World) : Prop where
  files : Disk.SameBut directory.IsBelow world.disk other.disk
  disk : other.disk = { world.disk with tree := other.disk.tree, modes := other.disk.modes }
  rest : other = { world with disk := other.disk, journalFile := other.journalFile }

theorem World.AlikeBut.refl (directory : Location) (world : World) : world.AlikeBut directory world :=
  ⟨.refl world.disk, rfl, rfl⟩

namespace Journal

open Disk (SameBut)

variable {journal : Journal} {base : Path} {root : Location} {shelf shelf' : Shelf} {before after : Disk}
  {day : String} {world : World}

theorem Opens.inside (opens : Opens base root day before after) : SameBut root.IsBelow before after ∧
    after = { before with tree := after.tree, modes := after.modes } := by
  obtain ⟨-, ⟨-, rfl⟩ | ⟨-, rfl⟩⟩ := opens
  · exact ⟨.refl _, rfl⟩
  · refine ⟨(Disk.withNew_sameBut _ _).mono ?_, rfl⟩
    rintro _ rfl
    exact Disk.isBelow_append (List.cons_ne_nil day []) root

/-- Whatever adding an event comes to, nothing is different outside of the directory of the journal. -/
theorem Change.inside {now : Instant} {event : Value} {r : Except Fault Path}
    (change : Change journal root now event before shelf r after shelf') : SameBut root.IsBelow before after ∧
      after = { before with tree := after.tree, modes := after.modes } := by
  have file_below (number : Nat) : ∀ location, location = fileName number :: now.dayName :: root →
      root.IsBelow location := by
    rintro _ rfl
    exact Disk.isBelow_append (List.cons_ne_nil (fileName number) [now.dayName]) root
  cases change with
  | nothing fault => exact ⟨.refl _, rfl⟩
  | opened opens => exact opens.inside
  | @made fields middle number _ opens _ _ _ _ =>
    obtain ⟨same, rest⟩ := opens.inside
    refine ⟨same.trans ((Disk.withNew_sameBut _ _).mono (file_below number)), ?_⟩
    rw [rest]
    rfl
  | @added fields middle number notes _ opens _ _ _ _ _ =>
    obtain ⟨same, rest⟩ := opens.inside
    refine ⟨same.trans ((Disk.withEntry_sameBut _).mono (file_below number)), ?_⟩
    rw [rest]
    rfl

/-- Adding an event changes files, and the file that the journal has written to last, and nothing else. -/
theorem append_rest (journal : Journal) (event : Value) (world : World) :
    Ends (journal.append event) world fun _ after =>
      after = { world with disk := after.disk, journalFile := after.journalFile } := by
  unfold append
  rw [Ends.bind_iff, Ends.ofExcept_iff]
  cases Event.check event with
  | error fault => rfl
  | ok fields =>
    rw [mapError_ok, onward_ok, Ends.bind_iff, Ends.get_iff, onward_ok]
    dsimp only
    rw [Ends.bind_iff, Ends.onDisk_iff]
    have ends : Ends (journal.target world.journalFile (journal.directory.child world.now.dayName)) world.disk
        fun _ _ => True := trivial
    refine ends.mono fun r middle _ => ?_
    cases r with
    | error fault => rfl
    | ok path =>
      rw [mapError_ok, onward_ok, Ends.bind_iff, Ends.modify_iff, onward_ok, Ends.bind_iff, Ends.onDisk_iff]
      have ends : Ends (Disk.append path (Event.line world.now fields).toUTF8) middle fun _ _ => True :=
        trivial
      refine ends.mono fun r after _ => ?_
      cases r <;> rfl

/-- The directory of a journal is there and empty and may be written to, and the journal has not been used
yet; the names of the first file of the day are not too long. -/
structure IsFresh (journal : Journal) (root : Location) (world : World) : Prop where
  vacant : IsVacant world.disk journal.directory root
  writable : IsOpenTo .write world.disk root
  fits : FitsDay journal.directory world.now.dayName 1
  unused : world.journalFile = none

/-- A fresh journal takes an event, and nothing else is different then. -/
theorem IsFresh.append_ends {event : Value} {fields : Fields} (fresh : journal.IsFresh root world)
    (checked : Event.check event = .ok fields) :
    Ends (journal.append event) world fun r after => (∃ path, r = .ok path) ∧ world.AlikeBut root after := by
  have is := fresh.vacant.isShelf
  have reaches := fresh.vacant.reaches
  have remembers : Remembers journal .empty world.journalFile := by
    rw [fresh.unused]
    exact nofun
  have accepted : Ends (journal.append event) world fun r _ => ∃ path, r = .ok path :=
    append_accepted is reaches remembers (.empty fresh.writable.top) fresh.writable.spares fresh.fits checked
  refine ((accepted.and (journal.append_ends is reaches remembers)).and
    (journal.append_rest event world)).mono fun r after ends => ?_
  obtain ⟨⟨success, shelf', -, -, -, change⟩, rest⟩ := ends
  exact ⟨success, change.inside.1, change.inside.2, rest⟩

end Journal
end JavaStubs

/-! ## Invocations -/

namespace JavaStubs.Implementor

open Journal (FitsDay IsVacant bare isVacant_bare isOpenTo_bare)

variable {implementor : Implementor} {journal : Journal} {root : Location} {call : Call}

/-- Whatever the introspector, the compiler, the settings and the files are: with a journal, an invocation
for a type with a name ends in the same result as without it, and what is different then is in the
directory of the journal, if that is fresh when the invocation has ended. -/
theorem run_transparent (kept : implementor.journal = some journal) (named : call.type ≠ "") (world : World)
    (fresh : Ends (call.run implementor.silent) world fun _ after => journal.IsFresh root after) :
    Ends (call.run implementor) world fun r later =>
      Ends (call.run implementor.silent) world fun silent after =>
        r = silent ∧ after.AlikeBut root later := by
  obtain ⟨silent, after, run⟩ := Ends.exists_run (call.run implementor.silent) world
  rw [Ends.of_run run] at fresh
  refine Call.run_concludes call ((Ends.of_run run).mpr ⟨fun outcome details closing => ?_, ?_⟩)
  · have checked : Event.check (.table (noteFields call.operation call.type outcome details)) = _ :=
      check_note call.operation_mem closing
    rw [if_neg named] at checked
    rw [note_eq kept, Ends.bind_iff]
    refine (fresh.append_ends checked).mono fun appended later ends => ?_
    obtain ⟨⟨path, rfl⟩, alike⟩ := ends
    rw [onward_ok, Ends.pure_iff, Ends.of_run run]
    exact ⟨rfl, alike⟩
  · rintro fault rfl -
    rw [Ends.of_run run]
    exact ⟨rfl, .refl root after⟩

/-- The journal of the implementor that rejects every source is fresh as long as nothing is different in a
directory of its name. -/
private theorem isFresh_of_bare {world : World} (disk : world.disk = bare.disk) (now : world.now = bare.now)
    (unused : world.journalFile = none) : (Journal.mk (.ofText "log") 100).IsFresh ["log"] world := by
  have vacant : IsVacant bare.disk (.ofText "log") ["log"] :=
    ⟨isVacant_bare.isTree, isVacant_bare.here, by decide +kernel, isVacant_bare.empty⟩
  have fits : FitsDay (.ofText "log") bare.now.dayName 1 := by
    refine ⟨⟨by decide +kernel, by decide +kernel⟩, fun number below => ?_⟩
    obtain rfl : number = 0 := by omega
    exact ⟨by decide +kernel, by decide +kernel⟩
  refine ⟨?_, ?_, ?_, unused⟩
  · rwa [disk]
  · rw [disk]
    exact isOpenTo_bare .write
  · rwa [now]

/-- What comes of the source that is rejected is gone again when that is told. -/
theorem run_transparent_rejected :
    (Call.archive "geo.Shape" (.ofText "j.jar")).type ≠ "" ∧
    Ends ((Call.archive "geo.Shape" (.ofText "j.jar")).run rejecting.silent) bare (fun _ after =>
      (Journal.mk (.ofText "log") 100).IsFresh ["log"] after) ∧
    Ends ((Call.archive "geo.Shape" (.ofText "j.jar")).run rejecting) bare fun r later =>
      Ends ((Call.archive "geo.Shape" (.ofText "j.jar")).run rejecting.silent) bare fun silent after =>
        r = silent ∧ after.AlikeBut ["log"] later := by
  have fresh : Ends ((Call.archive "geo.Shape" (.ofText "j.jar")).run rejecting.silent) bare fun _ after =>
      (Journal.mk (.ofText "log") 100).IsFresh ["log"] after := by
    unfold Ends
    refine isFresh_of_bare ?_ ?_ ?_
    · have parts {disk other : Disk}
          (same : disk.tree = other.tree ∧ disk.here = other.here ∧ disk.stuck = other.stuck ∧
            disk.modes = other.modes ∧ disk.mask = other.mask) : disk = other := by
        cases disk
        cases other
        simpa using same
      exact parts (by decide +kernel)
    · decide +kernel
    · decide +kernel
  exact ⟨by decide, fresh, run_transparent rfl (by decide) bare fresh⟩

/-- A type without a name is not known, and so there is no source; but with a journal that becomes the fault
of an event that lacks a field, although the journal is fresh. -/
theorem nameless_differs :
    Ends ((Call.source "" (.ofText "src")).run rejecting.silent) bare (fun r after =>
      r = .error (.stage (.invalidInput (.unknownType ""))) ∧
        (Journal.mk (.ofText "log") 100).IsFresh ["log"] after) ∧
    Ends ((Call.source "" (.ofText "src")).run rejecting) bare fun r _ =>
      r = .error (.event (.lacks ["interface"])) :=
  ⟨⟨rfl, isFresh_of_bare rfl rfl rfl⟩, rfl⟩

end JavaStubs.Implementor

import JavaStubs.Proofs.Journal.Access
import JavaStubs.Proofs.Journal.Events

/-!
When a journal takes what it is given. With the right to write to all that is on its shelf, and as long as
no name is too long, each event is added.
-/
namespace JavaStubs.Journal

open Disk (Fits SparesOwner)
open JavaStubs.Path (IsName hasNul)

-- a goal about a job on given names would be evaluated when a rule is applied to it
attribute [local irreducible] Ends

variable {journal : Journal} {base : Path} {root : Location} {shelf : Shelf} {disk middle : Disk}
  {day : String} {number : Nat}

/-- The name of a day and those of so many files of it are not too long. -/
def FitsDay (base : Path) (day : String) (count : Nat) : Prop :=
  Fits base day ∧ ∀ number < count, Fits (base.child day) (fileName number)

theorem Allows.mayMakeDirectory (allows : Allows .write root disk shelf)
    (is : IsShelf disk.tree root shelf) (day : String) : disk.MayMakeDirectory (day :: root) := by
  unfold Disk.MayMakeDirectory
  rw [is.day day]
  cases shelf day with
  | none => exact .inl ⟨rfl, allows.top.1⟩
  | some files => exact .inr rfl

theorem Allows.mayWrite (allows : Allows .write root disk shelf) (is : IsShelf disk.tree root shelf)
    (there : (shelf day).isSome) : disk.MayWrite (fileName number :: day :: root) := by
  refine ⟨fun _ => (allows.ofDay day there).1, fun content held => ?_⟩
  obtain ⟨notes, file, -⟩ := is.file_raw held
  exact allows.ofFile day number (List.getElem?_eq_some_iff.mp file).1

/-- A journal takes an event if all on its shelf may be written to and no name is too long. -/
theorem append_accepted {world : World} {event : Value} {fields : Fields}
    (is : IsShelf world.disk.tree root shelf) (reaches : world.disk.Reaches journal.directory root)
    (remembers : Remembers journal shelf world.journalFile) (allows : Allows .write root world.disk shelf)
    (spares : world.disk.SparesOwner)
    (fits : FitsDay journal.directory world.now.dayName ((shelf.files world.now.dayName).length + 1))
    (checked : Event.check event = .ok fields) :
    Ends (journal.append event) world fun r _ => ∃ path, r = .ok path := by
  have named := world.now.isName_dayName
  have free := world.now.hasNul_dayName
  unfold append
  rw [Ends.bind_iff, Ends.ofExcept_iff, checked, mapError_ok, onward_ok, Ends.bind_iff, Ends.get_iff,
    onward_ok]
  dsimp only
  rw [Ends.bind_iff, Ends.onDisk_iff]
  have admits {middle : Disk} (allows : Allows .write root middle (shelf.opened world.now.dayName)) :
      AdmitsFiles journal.directory root middle shelf world.now.dayName := fun number within =>
    ⟨(allows.ofDay _ (by simp [Shelf.opened])).2, fits.2 number (Nat.lt_succ_of_le within)⟩
  refine target_ends is reaches remembers named free
    (fun number middle opens opened reached aims space => ?_) (fun fault middle opens _ barred => ?_)
    fun barred => absurd ⟨⟨allows.top.2, fits.1⟩, allows.mayMakeDirectory is _⟩ barred
  · have allows := allows.opened is spares opens
    rw [mapError_ok, onward_ok, Ends.bind_iff, Ends.modify_iff, onward_ok, Ends.bind_iff, Ends.onDisk_iff]
    refine add_note_ends checked opens opened reached aims space (fun after _ _ _ _ => ?_) fun barred => ?_
    · rw [mapError_ok, onward_ok, Ends.pure_iff]
      exact ⟨_, rfl⟩
    · exact absurd ⟨admits allows number aims.within, allows.mayWrite opened (by simp [Shelf.opened])⟩ barred
  · exact absurd (admits (allows.opened is spares opens)) barred

/-! ## Events that are all valid -/

/-- A note is of an event that was added, and of the time when it was. -/
def IsNoteOf (addition : Addition) (note : Note) : Prop :=
  addition.now = note.now ∧ addition.event = .table note.fields

theorem Change.length_files {now : Instant} {event : Value} {before after : Disk} {shelf' : Shelf}
    {r : Except Fault Path} (change : Change journal root now event before shelf r after shelf')
    (day : String) : (shelf'.files day).length ≤ (shelf.files day).length + 1 := by
  have added (number : Nat) (note : Note) (aims : Aims journal shelf now.dayName number) :
      ((shelf.added now.dayName number note).files day).length ≤ (shelf.files day).length + 1 := by
    have within := aims.within
    rw [Shelf.files_added]
    split
    · next same =>
      rw [same, length_addTo within]
      omega
    · exact Nat.le_succ _
  cases change with
  | nothing fault => exact Nat.le_succ _
  | opened opens => simp
  | made _ _ _ aims => exact added _ _ aims
  | added _ _ _ aims => exact added _ _ aims

/-- Valid events are all added, if all on the shelf may be written to and no name is too long. -/
theorem notes_accepted {journals : Nat → Journal} {writers : Writers} {additions : List Addition}
    {count : Nat} (keep : Keep journals base root writers shelf)
    (based : ∀ writer, (journals writer).directory = base) (spares : writers.world.disk.SparesOwner)
    (allows : Allows .write root writers.world.disk shelf) (few : ∀ day, (shelf.files day).length ≤ count)
    (fits : ∀ addition ∈ additions, FitsDay base addition.now.dayName (count + additions.length))
    (valid : ∀ addition ∈ additions, ∃ fields, Event.check addition.event = .ok fields) :
    List.Forall₂ IsNoteOf additions (writers.notes journals additions) := by
  induction additions generalizing writers shelf count with
  | nil => exact .nil
  | cons addition rest ih =>
    obtain ⟨shelf', kept, change⟩ := keep.add based addition
    obtain ⟨fields, checked⟩ := valid addition List.mem_cons_self
    have here := fits addition List.mem_cons_self
    have accepted : ∃ path, (writers.add journals addition).1 = .ok path := by
      let before := { writers.world with
        now := addition.now
        journalFile := writers.current addition.writer }
      have reaches : before.disk.Reaches (journals addition.writer).directory root := by
        rw [based]
        exact keep.reaches
      have names : FitsDay (journals addition.writer).directory addition.now.dayName
          ((shelf.files addition.now.dayName).length + 1) := by
        rw [based]
        refine ⟨here.1, fun number below => here.2 number ?_⟩
        have few_here := few addition.now.dayName
        rw [List.length_cons]
        omega
      have ends : Ends ((journals addition.writer).append addition.event) before _ :=
        append_accepted keep.isShelf reaches (keep.remembers addition.writer) allows spares names checked
      unfold Ends at ends
      exact ends
    obtain ⟨path, success⟩ := accepted
    rw [Writers.notes, noted_of_checked checked success]
    refine .cons ⟨rfl, check_eq_ok checked⟩ ?_
    obtain ⟨spares, allows⟩ : (writers.add journals addition).2.world.disk.SparesOwner ∧
        Allows .write root (writers.add journals addition).2.world.disk shelf' :=
      allows.change keep.isShelf spares (by decide) change
    refine ih kept spares allows (fun day => (change.length_files day).trans (Nat.succ_le_succ (few day)))
      (fun other member => ?_) fun other member => valid other (List.mem_cons_of_mem addition member)
    have names := fits other (List.mem_cons_of_mem addition member)
    rwa [List.length_cons, ← Nat.succ_add_eq_add_succ] at names

/-- Valid events are all added to a directory that was empty and may be written to. -/
theorem notes_of_valid {world : World} (vacant : IsVacant world.disk base root)
    (opened : IsOpenTo .write world.disk root) (maxBytes : Nat → Int)
    (additions : List Addition)
    (fits : ∀ addition ∈ additions, FitsDay base addition.now.dayName additions.length)
    (valid : ∀ addition ∈ additions, ∃ fields, Event.check addition.event = .ok fields) :
    List.Forall₂ IsNoteOf additions
      ((Writers.start world).notes (fun writer => ⟨base, maxBytes writer⟩) additions) := by
  have start : Keep (fun writer => ⟨base, maxBytes writer⟩) base root (Writers.start world) .empty :=
    .start vacant
  refine notes_accepted start (fun _ => rfl) opened.spares (.empty opened.top) (fun day => Nat.zero_le 0)
    (fun addition member => ?_) valid
  rw [Nat.zero_add]
  exact fits addition member

end JavaStubs.Journal

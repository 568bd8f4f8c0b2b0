import JavaStubs.Proofs.Implementor.Archiving
import JavaStubs.Proofs.Implementor.Noting
import JavaStubs.Proofs.Journal.Appending
import JavaStubs.Proofs.Workspace.Keeping

/-!
What is left of an archive that was there when making it anew fails. Until it is packaged, the archive is
not touched; but a packaging that fails removes it.
-/
namespace JavaStubs.Implementor

open Disk (Keeps KeepsFile)
open Job (FailsOnly)

variable {implementor : Implementor} {described : Interface} {place : Path} {world : World}

/-! ## Packaging -/

/-- An archive could not be written. -/
def IsOfPackaging (failure : StageFault) : Prop := failure.kind = .packaging

private theorem onDisk_packaging {α : Type} (job : FileJob α) : FailsOnly IsOfPackaging (Job.onDisk job) :=
  .onDisk job

theorem close_packaging (writer : ArchiveWriter) : FailsOnly IsOfPackaging writer.close := by
  unfold ArchiveWriter.close
  split
  · exact Yields.bind (onDisk_packaging _) fun _ _ => Yields.pure trivial
  · exact Yields.pure trivial

theorem appended_packaging (writer : ArchiveWriter) (entry : String) (bytes : ByteArray) :
    FailsOnly IsOfPackaging (Job.ofExcept (writer.appended entry bytes)) := by
  intro world _
  rw [Ends.ofExcept_iff]
  unfold ArchiveWriter.appended
  dsimp only
  split
  · refine ⟨trivial, fun failure same => ?_⟩
    cases same
  · split
    · refine ⟨trivial, fun failure same => ?_⟩
      cases same
    · exact ⟨trivial, trivial⟩

theorem addFile_packaging (writer : ArchiveWriter) (entry : String) (classFile : Path) :
    FailsOnly IsOfPackaging (writer.addFile entry classFile) := by
  refine Yields.bind (onDisk_packaging _) fun bytes _ => ?_
  refine Yields.bind (appended_packaging writer entry bytes) fun _ _ => ?_
  exact Yields.bind (onDisk_packaging _) fun _ _ => Yields.pure trivial

theorem writeArchive_packaging (entry : String) (classFile archive : Path) :
    FailsOnly IsOfPackaging (writeArchive entry classFile archive) := by
  have opened : FailsOnly IsOfPackaging (ArchiveWriter.open_ archive) :=
    Yields.bind (onDisk_packaging _) fun _ _ => Yields.pure trivial
  refine Yields.bind opened fun writer _ => ?_
  refine Yields.bind (Yields.attempt (addFile_packaging writer entry classFile)) fun r outcome => ?_
  cases r with
  | ok filled => exact Yields.bind (close_packaging filled) fun _ _ => Yields.pure trivial
  | error fault => exact Yields.bind (close_packaging writer) fun _ _ => Yields.throw outcome

theorem discardPartial_packaging (archive : Path) : FailsOnly IsOfPackaging (discardPartial archive) := by
  refine Yields.tryCatch (onDisk_packaging _) fun fault only => ?_
  split
  · exact Yields.pure trivial
  · exact Yields.record _ _ _
  · exact Yields.throw only

theorem package_packaging (entry : String) (classFile archive : Path) :
    FailsOnly IsOfPackaging (package entry classFile archive) := by
  refine Yields.tryCatch (writeArchive_packaging entry classFile archive) fun fault only => ?_
  split
  · refine Yields.bind (discardPartial_packaging archive) fun _ _ => Yields.throw fun failure same => ?_
    cases same
    rfl
  · exact Yields.throw only

/-! ## Building -/

/-- Building an archive either fails before there is a class file, and all is there that was there, or there
is one and no failure of a stage but that of packaging it. -/
theorem buildArchive_keeps (undivided : implementor.settings.IsUndivided)
    (filed : Implementation.IsFiled described) (confined : implementor.compiler.IsConfined)
    (root : world.disk.tree.IsTree) (plain : place.IsPlain) :
    Ends (implementor.buildArchive described place) world fun r after =>
      (∃ fault, r = .error fault) ∧ Keeps world.disk after.disk ∨
      Ends (implementor.preparedBeside described place) world (fun p _ => ∃ classFile, p = .ok classFile) ∧
        ∀ failure, r = .error (.stage failure) → IsOfPackaging failure := by
  rw [buildArchive_eq]
  refine Workspace.within_keeps root plain undivided.tempPrefix
    (fun fault after keeps => .inl ⟨⟨fault, rfl⟩, keeps⟩) ?_
  intro middle name directory ready acquired from_ready
  obtain ⟨r, compiled, run⟩ :=
    Ends.exists_run (implementor.prepare described (place.parent.child name)) ready
  have prepared := prepare_ends undivided filed confined acquired.made.tree
    (plain.parent.child acquired.named) (acquired.find plain fun location _ => .refl ready.disk location)
    acquired.isBare.linkFree
  rw [Ends.of_run run] at prepared
  rw [Ends.bind_iff, Ends.of_run run]
  cases r with
  | error fault =>
    intro ended after how keeps
    refine .inl ⟨?_, keeps prepared.1⟩
    rcases how with rfl | ⟨other, rfl⟩
    · exact ⟨fault, rfl⟩
    · exact ⟨_, rfl⟩
  | ok classFile =>
    rw [onward_ok]
    have only := (package_packaging (entryName implementor.settings described) classFile place).ends compiled
    refine only.mono fun packaged worked only ended after how _ => .inr ⟨?_, fun failure same => ?_⟩
    · unfold preparedBeside
      rw [from_ready, Ends.of_run run]
      exact ⟨classFile, rfl⟩
    · rcases how with rfl | ⟨other, rfl⟩
      · exact only failure same
      · cases same

/-! ## The whole invocation -/

variable {type archive : String}

/-- The introspector and the compiler keep to their part when a type is asked for: the one leaves the disk alone,
and the other all but the workspace; and all names are undivided. -/
structure KeepsToPart (implementor : Implementor) (type : String) (world : World) : Prop where
  undivided : implementor.settings.IsUndivided
  describes : Ends (implementor.introspector type) world fun r after => after.disk = world.disk ∧
    ∀ described, r = .ok described → Implementation.IsFiled described
  confined : implementor.compiler.IsConfined
  root : world.disk.tree.IsTree
  stands : world.disk.tree.get? world.disk.here = some .directory

theorem KeepsToPart.isPlain (keeps : implementor.KeepsToPart type world) (archive : String) :
    (placeOf world archive).IsPlain :=
  Path.isPlain_absolute (keeps.root.isPlain_path (by simp [keeps.stands])) archive

/-- All but the packaging keep to their part when an archive is asked for: the journal, if there is one, leaves
alone what the archive's path leads to. -/
structure IsCareful (implementor : Implementor) (type archive : String) (world : World) : Prop extends
    implementor.KeepsToPart type world where
  journal : ∀ journal, implementor.journal = some journal →
    Ends (implementor.silent.generateArchive type (.ofText archive)) world fun _ after =>
      ∀ event, Ends (journal.append event) after fun _ later =>
        KeepsFile (placeOf world archive) after.disk later.disk

/-- There is no class file for an archive: one of the stages before the packaging fails. -/
def FailsEarly (implementor : Implementor) (type archive : String) (world : World) : Prop :=
  Ends (implementor.silent.prepared type (.ofText archive)) world fun r _ => ∃ fault, r = .error fault

theorem silent_keeps (careful : implementor.IsCareful type archive world) :
    Ends (implementor.silent.generateArchive type (.ofText archive)) world fun r after =>
      (∃ fault, r = .error fault) ∧ Keeps world.disk after.disk ∨
      ¬ implementor.FailsEarly type archive world ∧
        ∀ failure, r = .error (.stage failure) → IsOfPackaging failure := by
  have described := @describe_ends implementor.silent world _ type "archive" rfl careful.describes
  obtain ⟨r, ready, run⟩ := Ends.exists_run (implementor.silent.describe "archive" type) world
  rw [Ends.of_run run] at described
  obtain ⟨same, success⟩ := described
  unfold generateArchive FailsEarly prepared
  simp only [Ends.bind_iff, Ends.of_run run]
  cases r with
  | error fault => exact .inl ⟨⟨fault, rfl⟩, same ▸ .refl world.disk⟩
  | ok described =>
    obtain ⟨filed, -⟩ := success described rfl
    have place : Path.absoluteFrom ready.disk.here.path (.ofText archive) = placeOf world archive := by
      rw [same]
      rfl
    rw [onward_ok, onward_ok, absolute_iff, absolute_iff, place, Ends.bind_iff, Ends.attempt_iff]
    have built := @buildArchive_keeps implementor.silent described _ ready careful.undivided filed
      careful.confined (same ▸ careful.root) (careful.isPlain archive)
    refine built.mono fun r after keeps => ?_
    rw [same] at keeps
    have kept : (∃ fault, r = .error fault) ∧ Keeps world.disk after.disk ∨
        ¬ Ends (implementor.silent.preparedBeside described (placeOf world archive)) ready
          (fun r _ => ∃ fault, r = .error fault) ∧
          ∀ failure, r = .error (.stage failure) → IsOfPackaging failure := by
      refine keeps.imp_right fun ⟨prepared, only⟩ => ⟨fun early => ?_, only⟩
      obtain ⟨_, _, ⟨classFile, rfl⟩, fault, other⟩ := (prepared.and early).elim
      cases other
    rw [onward_ok]
    split
    · rw [Ends.bind_iff, note_of_none rfl, Ends.pure_iff, onward_ok, Ends.pure_iff]
      rcases kept with ⟨⟨fault, other⟩, -⟩ | ⟨late, -⟩
      · cases other
      · exact .inr ⟨late, nofun⟩
    · unfold noteFailure
      rw [note_of_none rfl, Ends.bind_iff, Ends.pure_iff, onward_ok, Ends.throw_iff]
      exact kept.imp (.imp_left fun _ => ⟨_, rfl⟩)
        (.imp_right fun only failure raised => only failure (congrArg _ (Except.error.inj raised)))
    · exact kept.imp (.imp_left fun _ => ⟨_, rfl⟩)
        (.imp_right fun only failure raised => only failure (congrArg _ (Except.error.inj raised)))

/-- Whenever one of the stages before the packaging fails, and whenever the failure of a stage that is
reported is not that of packaging, what the archive's path leads to is as it was. -/
theorem generateArchive_keeps (implementor : Implementor) (type archive : String) (world : World)
    (careful : implementor.IsCareful type archive world) :
    Ends (implementor.generateArchive type (.ofText archive)) world fun r after =>
      (implementor.FailsEarly type archive world ∨
        ∃ failure, r = .error (.stage failure) ∧ failure.kind ≠ .packaging) →
      (∃ fault, r = .error fault) ∧ KeepsFile (placeOf world archive) world.disk after.disk := by
  obtain ⟨r, after, run⟩ :=
    Ends.exists_run (implementor.silent.generateArchive type (.ofText archive)) world
  have kept := silent_keeps careful
  rw [Ends.of_run run] at kept
  -- whatever becomes of the note, the failure of a stage is that of the invocation
  have concludes {ended : Except Fault Path} {later : World}
      (how : ended = r ∨ ∃ fault, ended = .error fault ∧ ∀ failure, fault ≠ .stage failure)
      (spared : KeepsFile (placeOf world archive) after.disk later.disk)
      (why : implementor.FailsEarly type archive world ∨
        ∃ failure, ended = .error (.stage failure) ∧ failure.kind ≠ .packaging) :
      (∃ fault, ended = .error fault) ∧ KeepsFile (placeOf world archive) world.disk later.disk := by
    rcases kept with ⟨⟨fault, rfl⟩, keeps⟩ | ⟨late, only⟩
    · refine ⟨?_, (keeps.keepsFile careful.root (careful.isPlain archive).absolute).trans spared⟩
      rcases how with rfl | ⟨other, rfl, -⟩
      · exact ⟨fault, rfl⟩
      · exact ⟨other, rfl⟩
    · rcases why with early | ⟨failure, rfl, other⟩
      · exact absurd early late
      · rcases how with same | ⟨fault, same, stray⟩
        · exact absurd (only failure same.symm) other
        · exact absurd (Except.error.inj same).symm (stray failure)
  refine generateArchive_concludes ((Ends.of_run run).mpr ⟨fun outcome details _ => ?_, fun _ _ _ => ?_⟩)
  · cases journal : implementor.journal with
    | none =>
      rw [note_of_none journal, Ends.pure_iff]
      exact concludes (.inl rfl) (.refl _ _)
    | some journal' =>
      have spared := careful.journal journal' journal
      rw [Ends.of_run run] at spared
      rw [note_eq journal, Ends.bind_iff]
      refine ((spared _).and (journal'.append_unstaged _ after)).mono fun appended later ends => ?_
      obtain ⟨spared, unstaged⟩ := ends
      cases appended with
      | ok path => exact concludes (.inl rfl) spared
      | error fault =>
        exact concludes (.inr ⟨fault, rfl, fun failure same => unstaged failure (same ▸ rfl)⟩) spared
  · exact concludes (.inl rfl) (.refl _ _)

/-- The kind of the stage that failed, if one did. -/
def failedStage {α : Type} : Except Fault α → Option StageKind
  | .error (.stage failure) => some failure.kind
  | _ => none

theorem failedStage_eq_some {α : Type} {r : Except Fault α} {kind : StageKind}
    (failed : failedStage r = some kind) : ∃ failure, r = .error (.stage failure) ∧ failure.kind = kind := by
  unfold failedStage at failed
  split at failed
  · next failure => exact ⟨failure, rfl, Option.some.inj failed⟩
  · cases failed

/-- An implementor that knows one interface, with a compiler that makes nothing. -/
def makingNothing (code : Int) : Implementor :=
  { shapeMaker (.file (.ofText "code")) with compiler := fun _ _ => return ⟨code, "", ""⟩ }

theorem careful_makingNothing (code : Int) :
    (makingNothing code).IsCareful "geo.Shape" "o/j.jar" site where
  undivided := ⟨(by decide : '/' ∉ "Impl".toList), (by decide : '/' ∉ ".java".toList),
    (by decide : '/' ∉ "tmp".toList)⟩
  describes := by
    have found : (makingNothing code).introspector "geo.Shape" = pure shape := rfl
    rw [found, Ends.pure_iff]
    refine ⟨rfl, fun described same => ?_⟩
    cases same
    exact ⟨by decide +kernel, by decide +kernel⟩
  confined := fun world _ _ _ _ root _ _ _ _ _ => ⟨root, .refl world.disk⟩
  root := root_site
  stands := rfl
  journal := nofun

/-- When the source is rejected, the archive that was there is there still. -/
theorem generateArchive_keeps_rejected : (makingNothing 1).IsCareful "geo.Shape" "o/j.jar" site ∧
    (makingNothing 1).FailsEarly "geo.Shape" "o/j.jar" site ∧
    Ends ((makingNothing 1).generateArchive "geo.Shape" (.ofText "o/j.jar")) site fun r after =>
      (∃ fault, r = .error fault) ∧ after.disk.find .look (placeOf site "o/j.jar") =
        .ok (.entry ["j.jar", "o"] (.file (.ofText "old"))) := by
  have careful := careful_makingNothing 1
  have early : (makingNothing 1).FailsEarly "geo.Shape" "o/j.jar" site := by
    have failed : Ends ((makingNothing 1).silent.prepared "geo.Shape" (.ofText "o/j.jar")) site
        fun r _ => failedStage r = some .compilation := by
      unfold Ends
      decide +kernel
    refine failed.mono fun r _ failed => ?_
    obtain ⟨failure, same, -⟩ := failedStage_eq_some failed
    exact ⟨_, same⟩
  refine ⟨careful, early, ?_⟩
  refine (generateArchive_keeps _ "geo.Shape" "o/j.jar" site careful).mono fun r after keeps => ?_
  obtain ⟨raised, kept⟩ := keeps (.inl early)
  exact ⟨raised, kept _ _ (by decide +kernel)⟩

/-- When there is no class file although the source was compiled, the packaging fails, and the archive that
was there is gone. -/
theorem archive_lost_unmade : (makingNothing 0).IsCareful "geo.Shape" "o/j.jar" site ∧
    site.disk.find .look (placeOf site "o/j.jar") =
      .ok (.entry ["j.jar", "o"] (.file (.ofText "old"))) ∧
    Ends ((makingNothing 0).generateArchive "geo.Shape" (.ofText "o/j.jar")) site fun r after =>
      (∃ failure, r = .error (.stage failure) ∧ failure.kind = .packaging) ∧
        after.disk.tree.get? ["j.jar", "o"] = none := by
  have ends : Ends ((makingNothing 0).generateArchive "geo.Shape" (.ofText "o/j.jar")) site fun r after =>
      failedStage r = some .packaging ∧ after.disk.tree.get? ["j.jar", "o"] = none := by
    unfold Ends
    decide +kernel
  exact ⟨careful_makingNothing 0, by decide +kernel, ends.mono fun r after failed =>
    failed.imp_left failedStage_eq_some⟩

end JavaStubs.Implementor

import JavaStubs.Proofs.Implementor.Delivering
import JavaStubs.Proofs.Implementor.Failing
import JavaStubs.Proofs.Journal.Alike
import JavaStubs.Proofs.Workspace.Sticking

/-!
Asking for an archive where files cannot be removed. The answer is the same whichever files cannot be
removed, unless that decides whether the operating system lets the workspace be looked at when the stages
have ended, or the archive is to lie in the journal's directory and that decides whether the journal's file
can be written.
-/
namespace JavaStubs

/-! ## The journal -/

namespace Journal

variable (journal : Journal)

theorem commutes_hasRoom (path : Path) : Commutes Disk.sticking (journal.hasRoom path) := by
  refine .bind (Disk.commutes_probe path) fun found => ?_
  split <;> exact .pure _

theorem commutes_firstWithRoom (day : Path) (files number : Nat) :
    Commutes Disk.sticking (journal.firstWithRoom day files number) := by
  induction files generalizing number with
  | zero => exact .pure _
  | succ files ih => exact .bind (journal.commutes_hasRoom _) fun room => .ite (.pure _) (ih (number + 1))

theorem commutes_target (current : Option Path) (day : Path) :
    Commutes Disk.sticking (journal.target current day) := by
  have first : Commutes Disk.sticking (do
      journal.firstWithRoom day (← get).tree.entries.length 0) :=
    .get_bind (fun _ _ => rfl) fun disk => journal.commutes_firstWithRoom day _ 0
  refine .bind (Disk.commutes_makeDirectories day) fun _ => ?_
  split
  · exact .ite (.bind (journal.commutes_hasRoom _) fun room => .ite (.pure _) first) first
  · exact first

theorem commutes_append (event : Value) : Commutes World.sticking (journal.append event) := by
  refine .bind (.ofExcept _) fun fields => .get_bind (fun _ _ => rfl) fun world => ?_
  refine .bind (.onDisk (journal.commutes_target _ _)) fun path => .bind (.modify fun _ _ => rfl) fun _ => ?_
  exact .bind (.onDisk (Disk.commutes_append _ _)) fun _ => .pure _

/-- The directory of a journal is there, without links in it or on the way to it, and an archive is to be neither
in it nor below it. -/
structure LiesApart (journal : Journal) (archive : Path) (disk : Disk) : Prop where
  named : ∀ name ∈ journal.directory.names, Path.IsName name
  no_link : ∀ location target, (journal.directory.placeFrom disk.here).IsAround location →
    disk.tree.get? location ≠ some (.link target)
  outside : disk.LiesOutside archive (journal.directory.placeFrom disk.here)

variable {journal} in
/-- Two disks are alike around the directory of a journal if nothing changed there on either. -/
theorem LiesApart.alikeAround {archive : Path} {before disk other : Disk} (lies : journal.LiesApart archive before)
    (stands : disk.standing = before.standing) (alike : other.standing = disk.standing)
    (same : ∀ location, (journal.directory.placeFrom before.here).IsAround location →
      Disk.SameAt before disk location)
    (also : ∀ location, (journal.directory.placeFrom before.here).IsAround location →
      Disk.SameAt before other location) :
    disk.AlikeAround before.here (journal.directory.placeFrom before.here) other := by
  obtain ⟨-, no_link, there, -, apart⟩ := lies
  have here : disk.here = before.here := congrArg (·.1) stands
  have occupied {disk : Disk} (same : Disk.SameAt before disk (journal.directory.placeFrom before.here)) :
      disk.tree.entries ≠ [] := by
    intro empty
    have held := same.1.trans there
    cases place : journal.directory.placeFrom before.here with
    | nil => exact apart (place ▸ List.nil_suffix)
    | cons name above =>
      rw [place, FileTree.get?, empty] at held
      cases held
  have root : (journal.directory.placeFrom before.here).IsAround (journal.directory.placeFrom before.here) :=
    .inl List.suffix_rfl
  refine ⟨⟨here, (congrArg (·.1) alike).trans here⟩, congrArg (·.2) alike,
    ⟨occupied (same _ root), occupied (also _ root)⟩, fun location around => ?_, fun location target around => ?_⟩
  · have first := same location around
    have second := also location around
    exact ⟨second.1.trans first.1.symm, second.2.trans first.2.symm⟩
  · rw [(same location around).1]
    exact no_link location target around

end Journal

namespace Implementor

variable {implementor : Implementor} {described : Interface} {place : Path} {world : World}

/-- The introspector and the compiler remove no files: what they do does not depend on which ones cannot be
removed. -/
structure IsUnaware (implementor : Implementor) : Prop where
  introspector : ∀ type, Commutes World.sticking (implementor.introspector type)
  compiler : ∀ classpath file, Commutes World.sticking (implementor.compiler classpath file)

/-! ## Stages -/

theorem commutes_writtenSource (settings : Settings) (described : Interface) (workspace : Path) :
    Commutes World.sticking (writtenSource settings described workspace) := by
  have resolved : Commutes World.sticking (resolveDestination settings described workspace) :=
    .bind (.refused (.onDisk (Disk.commutes_makeDirectories _))) fun _ => .pure _
  refine .refused (.bind resolved fun path => ?_)
  exact .bind (.onDisk (Disk.commutes_write _ _)) fun _ => .bind (.record _ _ _) fun _ => .pure _

theorem commutes_compileSource (unaware : implementor.IsUnaware) (workspace file : Path) :
    Commutes World.sticking (implementor.compileSource described workspace file) := by
  have compiled (classpath : List Path) :
      Commutes World.sticking (implementor.compiler.compile classpath file) := by
    refine .bind (unaware.compiler classpath file) fun outcome => ?_
    exact .ite (.pure _) (.bind (.record _ _ _) fun _ => .pure _)
  exact .bind (compiled _) fun outcome => .ite (.ofExcept _) (.throw _)

theorem commutes_prepare (unaware : implementor.IsUnaware) (workspace : Path) :
    Commutes World.sticking (implementor.prepare described workspace) :=
  .bind (commutes_writtenSource _ _ _) fun file => commutes_compileSource unaware workspace file

theorem commutes_write (writer : ArchiveWriter) (content : Content) :
    Commutes Disk.sticking (writer.write content) := by
  refine .get_bind (fun _ _ => rfl) fun disk => ?_
  split
  · exact Disk.commutes_putFile _ _
  · exact .pure _

theorem commutes_writeArchive (entry : String) (classFile archive : Path) :
    Commutes World.sticking (writeArchive entry classFile archive) := by
  have closes (writer : ArchiveWriter) : Commutes World.sticking writer.close :=
    .ite (.bind (.onDisk (commutes_write _ _)) fun _ => .pure _) (.pure _)
  have adds (writer : ArchiveWriter) : Commutes World.sticking (writer.addFile entry classFile) := by
    refine .bind (.onDisk (Disk.commutes_readBytes _)) fun bytes => .bind (.ofExcept _) fun filled => ?_
    exact .bind (.onDisk (commutes_write _ _)) fun _ => .pure _
  have opens : Commutes World.sticking (ArchiveWriter.open_ archive) :=
    .bind (.onDisk (Disk.commutes_write _ _)) fun _ => .pure _
  refine .bind opens fun writer => .bind (.attempt (adds writer)) fun r => ?_
  split
  · exact .bind (closes _) fun _ => .pure _
  · exact .bind (closes _) fun _ => .throw _

/-- What comes of removing a partial archive does not depend on whether it can be removed. -/
theorem discardPartial_result (archive : Path) (world : World) :
    Ends (discardPartial archive) world fun r _ =>
      r = if Path.hasNul archive.text then .error (.file .nulInName) else .ok () := by
  unfold discardPartial
  rw [Ends.tryCatch_iff, Ends.onDisk_iff]
  by_cases nul : Path.hasNul archive.text = true
  · unfold Disk.removeFile Disk.checkName
    rw [if_pos nul, if_pos nul]
    rfl
  · rw [if_neg nul]
    refine Disk.removeFile_ends (fun _ _ _ _ => rfl) fun fault refusal => ?_
    obtain ⟨refusal, rfl⟩ := refusal (by simpa using nul)
    rw [mapError_error, caught_error]
    split
    · rfl
    · rfl
    · next other => exact absurd rfl (other _)

theorem leaves_discardPartial (archive : Path) : LeavesPart World.journalView (discardPartial archive) := by
  refine .tryCatch (fun world => ?_) fun fault => ?_
  · rw [Ends.onDisk_iff]
    exact (Disk.leaves_removeFile archive world.disk).mono fun r after same => World.journalView_disk same
  · split
    · exact .pure _
    · exact fun _ => rfl
    · exact .throw _

/-- A packaging that fails ends in the fault of writing the archive, and one that succeeds removes nothing. -/
theorem package_agrees (entry : String) (classFile archive : Path) :
    Job.Agrees (package entry classFile archive) := by
  intro names world
  have commutes := commutes_writeArchive entry classFile archive
  obtain ⟨r, after, run⟩ := Ends.exists_run (writeArchive entry classFile archive) world
  unfold package
  rw [Ends.tryCatch_iff, Ends.of_run run]
  cases r with
  | ok _ =>
    rw [caught_ok, Ends.tryCatch_iff, Ends.of_run (commutes.run run)]
    exact ⟨rfl, rfl, fun _ _ => rfl⟩
  | error fault =>
    rw [caught_error]
    simp only [Ends.tryCatch_iff, Ends.of_run (commutes.run run), caught_error]
    split
    · have first := (discardPartial_result archive after).and (leaves_discardPartial archive after)
      have second := (discardPartial_result archive (after.sticking names)).and
        (leaves_discardPartial archive (after.sticking names))
      obtain ⟨discarded, last, discarding⟩ := Ends.exists_run (discardPartial archive) after
      obtain ⟨discarded', last', discarding'⟩ :=
        Ends.exists_run (discardPartial archive) (after.sticking names)
      rw [Ends.of_run discarding] at first
      rw [Ends.of_run discarding', ← first.1] at second
      obtain ⟨rfl, stands'⟩ := second
      have stands : last'.journalView = last.journalView := stands'.trans first.2.symm
      simp only [Ends.bind_iff, Ends.of_run discarding, Ends.of_run discarding']
      cases discarded' with
      | ok _ => exact ⟨rfl, stands, fun _ done => by cases done⟩
      | error fault => exact ⟨rfl, stands, fun _ done => by cases done⟩
    · exact ⟨rfl, rfl, fun _ done => by cases done⟩

theorem stages_agrees (unaware : implementor.IsUnaware) (workspace : Path) :
    Job.Agrees (implementor.stages described place workspace) :=
  .bind (commutes_prepare unaware workspace) fun _ => package_agrees _ _ _

/-- Whichever files cannot be removed, building an archive comes to the same result, unless releasing its
workspace ends in a fault. -/
theorem buildArchive_agrees (unaware : implementor.IsUnaware) (names : List String) (world : World) :
    Ends (implementor.buildArchive described place) world fun r after =>
      Ends (implementor.buildArchive described place) (world.sticking names) fun r' after' =>
        after'.journalView = after.journalView ∧ (r' = r ∨ ∃ fault,
          Workspace.Unreleased place implementor.settings.tempPrefix (implementor.stages described place)
            world fault ∨
          Workspace.Unreleased place implementor.settings.tempPrefix (implementor.stages described place)
            (world.sticking names) fault) := by
  rw [buildArchive_eq]
  exact Workspace.within_agrees (stages_agrees unaware) names world

/-! ## The whole invocation -/

variable {type : String} {archive : Path}

theorem commutes_note (operation type outcome : String) (details : List (String × String)) :
    Commutes World.sticking (implementor.note operation type outcome details) := by
  cases kept : implementor.journal with
  | none =>
    rw [note_of_none kept]
    exact .pure _
  | some journal =>
    rw [note_eq kept]
    exact .bind (journal.commutes_append _) fun _ => .pure _

theorem commutes_implementable {introspector : Introspector}
    (unaware : Commutes World.sticking (introspector type)) :
    Commutes World.sticking (Introspection.implementable introspector type) :=
  .bind unaware fun _ => .ofExcept _

theorem commutes_describe (unaware : implementor.IsUnaware) (operation type : String) :
    Commutes World.sticking (implementor.describe operation type) := by
  refine .tryCatch (commutes_implementable (unaware.introspector type)) fun fault => ?_
  split
  · exact .bind (commutes_note _ _ _ _) fun _ => .throw _
  · exact .throw _

theorem commutes_started (unaware : implementor.IsUnaware) (type : String) (archive : Path) :
    Commutes World.sticking (implementor.started type archive) :=
  .bind (commutes_describe unaware _ _) fun _ => .bind (Workspace.commutes_absolute _) fun _ => .pure _

theorem commutes_prepared (unaware : implementor.IsUnaware) (type : String) (archive : Path) :
    Commutes World.sticking (implementor.prepared type archive) := by
  refine .bind (commutes_describe unaware _ _) fun _ => .bind (Workspace.commutes_absolute _) fun place => ?_
  exact .bind (Workspace.commutes_acquire place _) fun workspace => .bind (.record _ _ _) fun _ =>
    commutes_prepare unaware workspace

/-- An archive is asked for, up to the note of how that ended. -/
def attempted (implementor : Implementor) (type : String) (archive : Path) :
    Job (Path × Except Fault Unit) := do
  let (described, place) ← implementor.started type archive
  return (place, ← Job.attempt (implementor.buildArchive described place))

/-- The note of how building an archive ended, and the answer. -/
def conclude (implementor : Implementor) (type : String) : Path × Except Fault Unit → Job Path
  | (place, .ok _) => do
    implementor.note "archive" type Event.outcomeOk [("artifact", place.text)]
    return place
  | (_, .error (.stage fault)) => do
    implementor.noteFailure "archive" type fault
    throw (.stage fault)
  | (_, .error fault) => throw fault

theorem generateArchive_eq (implementor : Implementor) (type : String) (archive : Path) :
    implementor.generateArchive type archive =
      implementor.attempted type archive >>= implementor.conclude type := by
  unfold generateArchive attempted started
  simp only [bind_assoc, pure_bind]
  congr
  funext described
  congr
  funext place
  congr
  funext built
  cases built with
  | ok _ => rfl
  | error fault => cases fault <;> rfl

/-- When an archive was asked for, releasing its workspace ends in a fault. -/
def Unreleased (implementor : Implementor) (type : String) (archive : Path) (world : World) : Prop :=
  Ends (implementor.started type archive) world fun r ready => ∃ described place fault,
    r = .ok (described, place) ∧ Workspace.Unreleased place implementor.settings.tempPrefix
      (implementor.stages described place) ready fault

theorem attempted_agrees (unaware : implementor.IsUnaware) (names : List String) (world : World) :
    Ends (implementor.attempted type archive) world fun r after =>
      Ends (implementor.attempted type archive) (world.sticking names) fun r' after' =>
        after'.journalView = after.journalView ∧ (r' = r ∨ implementor.Unreleased type archive world ∨
          implementor.Unreleased type archive (world.sticking names)) := by
  obtain ⟨r, ready, run⟩ := Ends.exists_run (implementor.started type archive) world
  have run' := (commutes_started unaware type archive).run (i := names) run
  unfold attempted Unreleased
  simp only [Ends.bind_iff, Ends.of_run run, Ends.of_run run']
  cases r with
  | error fault => exact ⟨rfl, .inl rfl⟩
  | ok start =>
    obtain ⟨described, place⟩ := start
    simp only [onward_ok, Ends.bind_iff, Ends.attempt_iff, Ends.pure_iff]
    refine (buildArchive_agrees unaware names ready).mono fun built _ ends => ?_
    refine ends.mono fun built' _ agree => ⟨agree.1, ?_⟩
    rcases agree.2 with rfl | ⟨fault, unreleased | unreleased⟩
    · exact .inl rfl
    · exact .inr (.inl ⟨described, place, fault, rfl, unreleased⟩)
    · exact .inr (.inr ⟨described, place, fault, rfl, unreleased⟩)

/-! ### Where the journal is elsewhere -/

theorem leaves_writeSource (settings : Settings) (described : Interface) (root : Path) :
    LeavesPart World.standing (writeSource settings described root) := by
  have resolved : LeavesPart World.standing (resolveDestination settings described root) :=
    .bind (.refused (.onDisk (Disk.leaves_makeDirectories _))) fun _ => .pure _
  refine .bind resolved fun path => .bind (.onDisk (Disk.leaves_write _ _)) fun _ => ?_
  exact .bind (fun _ => rfl) fun _ => .pure _

theorem leaves_writeArchive (entry : String) (classFile archive : Path) :
    LeavesPart World.standing (writeArchive entry classFile archive) := by
  have writes (writer : ArchiveWriter) (content : Content) : LeavesPart Disk.standing (writer.write content) := by
    refine .get_bind fun disk => ?_
    split
    · exact Disk.leaves_putFile _ _
    · exact .pure _
  have closes (writer : ArchiveWriter) : LeavesPart World.standing writer.close :=
    .ite (.bind (.onDisk (writes _ _)) fun _ => .pure _) (.pure _)
  have adds (writer : ArchiveWriter) :
      LeavesPart World.standing (writer.addFile entry classFile) := by
    refine .bind (.onDisk (.of_reads (Disk.reads_readBytes _))) fun bytes => .bind (.ofExcept _) fun filled => ?_
    exact .bind (.onDisk (writes _ _)) fun _ => .pure _
  refine .bind (.bind (.onDisk (Disk.leaves_write _ _)) fun _ => .pure _) fun writer => ?_
  refine .bind (.attempt (adds writer)) fun r => ?_
  split
  · exact .bind (closes _) fun _ => .pure _
  · exact .bind (closes _) fun _ => .throw _

/-- A compiler leaves the program where it stands. -/
def LeavesStanding (compiler : Compiler) : Prop :=
  ∀ classpath file, LeavesPart World.standing (compiler classpath file)

theorem leaves_buildArchive (stays : LeavesStanding implementor.compiler) :
    LeavesPart World.standing (implementor.buildArchive described place) := by
  have compiles (workspace file : Path) : LeavesPart World.standing
      (implementor.compileSource described workspace file) := by
    have compiled : LeavesPart World.standing
        (implementor.compiler.compile (classpath described workspace) file) :=
      .bind (stays _ _) fun outcome => .ite (.pure _) (.bind (fun _ => rfl) fun _ => .pure _)
    exact .bind compiled fun outcome => .ite (.ofExcept _) (.throw _)
  refine Workspace.leaves_within fun workspace => .bind (.refused (leaves_writeSource _ _ _)) fun file => ?_
  refine .bind (compiles workspace file) fun classFile => .tryCatch (leaves_writeArchive _ _ _) fun fault => ?_
  split
  · refine .bind (fun world => ?_) fun _ => .throw _
    exact (leaves_discardPartial place world).mono fun r after same => congrArg (·.2.2) same
  · exact .throw _

/-- Building an archive makes no difference around a directory that the archive lies outside of. -/
theorem buildArchive_sameAround {root : Location} (undivided : implementor.settings.IsUndivided)
    (filed : Implementation.IsFiled described) (confined : implementor.compiler.IsConfined)
    (tree : world.disk.tree.IsTree) (plain : place.IsPlain) (outside : world.disk.LiesOutside place root) :
    Ends (implementor.buildArchive described place) world fun _ after =>
      ∀ location, root.IsAround location → Disk.SameAt world.disk after.disk location := by
  rw [buildArchive_eq]
  refine Workspace.within_released tree plain undivided.tempPrefix
    (fun fault after grown location around => grown.sameAround tree plain outside around) ?_
  intro middle name directory ready acquired from_ready
  have no_link := outside.straight.endsInNoLink tree plain
  refine (stages_work undivided filed confined tree plain acquired no_link).mono fun r worked work => ?_
  exact ⟨work, fun issues after _ released location around =>
    released.sameAround work acquired tree plain outside around⟩

theorem describe_found {kind : Interface → Prop} (operation : String)
    (describes : Ends (implementor.introspector type) world fun r after => after.disk = world.disk ∧
      ∀ described, r = .ok described → kind described) :
    Ends (implementor.describe operation type) world fun r after =>
      ∀ described, r = .ok described → after.disk = world.disk ∧ kind described := by
  unfold describe
  rw [Ends.tryCatch_iff]
  refine (implementable_ends describes).mono fun r after ends => ?_
  cases r with
  | ok described =>
    intro other done
    exact ⟨ends.1, (ends.2 other done).1⟩
  | error fault =>
    rw [caught_error]
    split
    · obtain ⟨noted, later, run⟩ := Ends.exists_run (implementor.noteFailure operation type _) after
      rw [Ends.bind_iff, Ends.of_run run]
      cases noted <;> exact nofun
    · exact nofun

variable {archive : String}

/-- All keep to their part when an archive is asked for, the compiler leaves the program where it stands, and the
journal's directory lies apart from the archive. -/
structure KeepsApart (implementor : Implementor) (type archive : String) (world : World) : Prop extends
    implementor.KeepsToPart type world where
  stays : LeavesStanding implementor.compiler
  journal : ∀ journal, implementor.journal = some journal → journal.LiesApart (placeOf world archive) world.disk

theorem KeepsToPart.sticking {names : List String} (keeps : implementor.KeepsToPart type world)
    (unaware : implementor.IsUnaware) : implementor.KeepsToPart type (world.sticking names) := by
  refine ⟨keeps.undivided, ?_, keeps.confined, keeps.root, keeps.stands⟩
  refine (unaware.introspector type names world _).mpr (keeps.describes.mono fun r after ends => ?_)
  exact ⟨congrArg (Disk.sticking names) ends.1, ends.2⟩

theorem KeepsApart.sticking {names : List String} (keeps : implementor.KeepsApart type archive world)
    (unaware : implementor.IsUnaware) : implementor.KeepsApart type archive (world.sticking names) :=
  ⟨keeps.toKeepsToPart.sticking unaware, keeps.stays, fun journal kept =>
    let ⟨named, no_link, there, straight, apart⟩ := keeps.journal journal kept
    ⟨named, no_link, there, straight, apart⟩⟩

/-- Around the journal's directory all is the same when an archive was built. -/
theorem KeepsApart.sameAround {journal : Journal} (keeps : implementor.KeepsApart type archive world)
    (kept : implementor.journal = some journal) :
    Ends (implementor.attempted type (.ofText archive)) world fun r after => ∀ built, r = .ok built →
      after.standing = world.standing ∧
        ∀ location, (journal.directory.placeFrom world.disk.here).IsAround location →
          Disk.SameAt world.disk after.disk location := by
  have described := describe_found "archive" keeps.describes
  obtain ⟨r, ready, run⟩ := Ends.exists_run (implementor.describe "archive" type) world
  rw [Ends.of_run run] at described
  unfold Implementor.attempted started
  simp only [Ends.bind_iff, Ends.of_run run]
  cases r with
  | error fault => exact nofun
  | ok found =>
    obtain ⟨same, filed⟩ := described found rfl
    have here : Path.absoluteFrom ready.disk.here.path (.ofText archive) = placeOf world archive := by
      rw [same]
      rfl
    rw [onward_ok, absolute_iff, here, Ends.pure_iff, onward_ok, Ends.bind_iff, Ends.attempt_iff]
    have outside := (keeps.journal journal kept).outside
    rw [← same] at outside
    have around := buildArchive_sameAround keeps.undivided filed keeps.confined (same ▸ keeps.root)
      (keeps.isPlain archive) outside
    have stands := @leaves_buildArchive implementor found (placeOf world archive) keeps.stays ready
    refine (around.and stands).mono fun built after ends => ?_
    rw [onward_ok, Ends.pure_iff]
    intro _ _
    rw [← same]
    exact ⟨ends.2.trans (congrArg Disk.standing same), ends.1⟩

/-- When building an archive that was asked for has ended, the note of that is refused for one of the two
selections of files that cannot be removed, or for each of them for another reason. -/
def NotedApart (implementor : Implementor) (type archive : String) (names : List String) (world : World) : Prop :=
  ∃ journal outcome details, implementor.journal = some journal ∧
    Ends (implementor.attempted type (.ofText archive)) world fun r after => (∃ built, r = .ok built) ∧
    Ends (implementor.attempted type (.ofText archive)) (world.sticking names) fun r' after' =>
      (∃ built, r' = .ok built) ∧
      ¬ Ends (journal.append (.table (noteFields "archive" type outcome details))) after fun r _ =>
        Ends (journal.append (.table (noteFields "archive" type outcome details))) after' fun r' _ =>
          ∀ fault, r' = .error fault ↔ r = .error fault

/-- Where the journal's directory lies apart from the archive, it does not matter to the note which files cannot be
removed. -/
theorem KeepsApart.not_notedApart {names : List String} (keeps : implementor.KeepsApart type archive world)
    (unaware : implementor.IsUnaware) : ¬ implementor.NotedApart type archive names world := by
  rintro ⟨journal, outcome, details, kept, noted⟩
  have agrees := @attempted_agrees implementor type (.ofText archive) unaware names world
  have first := keeps.sameAround kept
  have second := (@KeepsApart.sticking _ _ _ _ names keeps unaware).sameAround kept
  obtain ⟨r, after, run⟩ := Ends.exists_run (implementor.attempted type (.ofText archive)) world
  obtain ⟨r', after', run'⟩ :=
    Ends.exists_run (implementor.attempted type (.ofText archive)) (world.sticking names)
  rw [Ends.of_run run, Ends.of_run run'] at noted agrees
  rw [Ends.of_run run] at first
  rw [Ends.of_run run'] at second
  obtain ⟨⟨built, done⟩, ⟨built', done'⟩, apart⟩ := noted
  obtain ⟨stands, around⟩ := first built done
  obtain ⟨stands', around'⟩ := second built' done'
  have lies := keeps.journal journal kept
  have standing : after'.disk.standing = after.disk.standing := congrArg (·.2.2) agrees.1
  have alike : World.AlikeAround world.disk.here (journal.directory.placeFrom world.disk.here) after after' :=
    ⟨congrArg (·.1) agrees.1, congrArg (·.2.1) agrees.1, lies.alikeAround stands standing around around'⟩
  have same := journal.append_alike (.table (noteFields "archive" type outcome details)) lies.named rfl _ _ alike
  refine apart (same.mono fun r later ends => ends.mono fun r' later' ends => ?_)
  rw [ends.1]
  exact fun _ => Iff.rfl

/-- A journal in a directory beside the archive lies apart from it. -/
theorem keepsApart_beside :
    KeepsApart { makingNothing 0 with journal := some ⟨.ofText "o", 100⟩ } "geo.Shape" "k.jar" site := by
  have linkless : site.disk.tree.IsLinkless := FileTree.isLinkless_of_entries (by decide +kernel)
  have keeps := (careful_makingNothing 0).toKeepsToPart
  refine ⟨⟨keeps.undivided, keeps.describes, keeps.confined, keeps.root, keeps.stands⟩, fun _ _ => .pure _, ?_⟩
  rintro journal ⟨⟩
  have names : (Path.ofText "o").names = ["o"] := by decide +kernel
  refine ⟨fun name member => ?_, fun location target _ => linkless location target, ?_⟩
  · obtain rfl := List.mem_singleton.mp (names ▸ member)
    exact ⟨by decide, by decide, by decide, by decide⟩
  · exact ⟨by decide +kernel, fun location target _ => linkless location target, by decide +kernel⟩

/-- How it can matter which files cannot be removed: releasing the workspace ends in a fault, or the journal's
directory does not lie apart from the archive, and what is left decides whether its file can be written. -/
inductive Matters (implementor : Implementor) (type archive : String) (names : List String) (world : World) :
    Prop where
  | before (unreleased : implementor.Unreleased type (.ofText archive) world)
  | after (unreleased : implementor.Unreleased type (.ofText archive) (world.sticking names))
  | note (near : ¬ implementor.KeepsApart type archive world)
      (apart : implementor.NotedApart type archive names world)

/-! ### The answer -/

theorem note_alike {after after' : World} {outcome : String} {details : List (String × String)}
    (alike : ∀ journal, implementor.journal = some journal →
      Ends (journal.append (.table (noteFields "archive" type outcome details))) after fun r _ =>
      Ends (journal.append (.table (noteFields "archive" type outcome details))) after' fun r' _ =>
        ∀ fault, r' = .error fault ↔ r = .error fault) :
    Ends (implementor.note "archive" type outcome details) after fun r _ =>
      Ends (implementor.note "archive" type outcome details) after' fun r' _ => r' = r := by
  cases kept : implementor.journal with
  | none =>
    rw [note_of_none kept]
    rfl
  | some journal =>
    rw [note_eq kept]
    simp only [Ends.bind_iff]
    refine (alike journal kept).mono fun r _ ends => ?_
    obtain ⟨r', later, run⟩ := Ends.exists_run
      (journal.append (.table (noteFields "archive" type outcome details))) after'
    rw [Ends.of_run run] at ends
    simp only [Ends.of_run run]
    cases r with
    | error fault =>
      rw [(ends fault).mpr rfl]
      rfl
    | ok path =>
      cases r' with
      | ok path' => rfl
      | error fault => cases (ends fault).mp rfl

theorem conclude_alike {after after' : World} (built : Path × Except Fault Unit)
    (alike : ∀ outcome details,
      Ends (implementor.note "archive" type outcome details) after fun r _ =>
        Ends (implementor.note "archive" type outcome details) after' fun r' _ => r' = r) :
    Ends (implementor.conclude type built) after fun r _ =>
      Ends (implementor.conclude type built) after' fun r' _ => r' = r := by
  have noted {outcome : String} {details : List (String × String)} {α : Type} (last : Except Fault α) :
      Ends (implementor.note "archive" type outcome details >>= fun _ => Job.ofExcept last) after fun r _ =>
      Ends (implementor.note "archive" type outcome details >>= fun _ => Job.ofExcept last) after'
        fun r' _ => r' = r := by
    simp only [Ends.bind_iff]
    refine (alike outcome details).mono fun r _ ends => ?_
    obtain ⟨r', later, run⟩ :=
      Ends.exists_run (implementor.note "archive" type outcome details) after'
    rw [Ends.of_run run] at ends
    subst ends
    simp only [Ends.of_run run]
    cases r' with
    | ok _ => simp only [onward_ok, Ends.ofExcept_iff]
    | error fault => rfl
  obtain ⟨place, fault | _⟩ := built
  · cases fault with
    | stage failure => exact noted (.error (.stage failure))
    | _ => rfl
  · exact noted (.ok place)

/-- Whichever files cannot be removed, the answer is the same, unless it matters. -/
theorem generateArchive_agrees (unaware : implementor.IsUnaware) (names : List String) (world : World) :
    Ends (implementor.generateArchive type (.ofText archive)) world fun r _ =>
      Ends (implementor.generateArchive type (.ofText archive)) (world.sticking names) fun r' _ =>
        r' = r ∨ implementor.Matters type archive names world := by
  by_cases matters : implementor.Matters type archive names world
  · exact .inr matters
  have agrees := @attempted_agrees implementor type (.ofText archive) unaware names world
  obtain ⟨r, after, run⟩ := Ends.exists_run (implementor.attempted type (.ofText archive)) world
  obtain ⟨r', after', run'⟩ :=
    Ends.exists_run (implementor.attempted type (.ofText archive)) (world.sticking names)
  rw [Ends.of_run run, Ends.of_run run'] at agrees
  rw [generateArchive_eq]
  simp only [Ends.bind_iff, Ends.of_run run, Ends.of_run run']
  rcases agrees.2 with rfl | unreleased | unreleased
  · cases r' with
    | error fault => exact .inl rfl
    | ok built =>
      simp only [onward_ok]
      refine (conclude_alike built fun outcome details => note_alike fun journal kept => ?_).mono
        fun r _ ends => ends.mono fun r' _ same => .inl same
      by_contra other
      have noted : implementor.NotedApart type archive names world := by
        refine ⟨journal, outcome, details, kept, ?_⟩
        rw [Ends.of_run run, Ends.of_run run']
        exact ⟨⟨built, rfl⟩, ⟨built, rfl⟩, other⟩
      exact matters (.note (fun keeps => keeps.not_notedApart unaware noted) noted)
  · exact absurd (.before unreleased) matters
  · exact absurd (.after unreleased) matters

/-! ## The archive -/

/-- A path leads to a file, and to the same one on another disk, with the same content. -/
def SharesFile (path : Path) (disk other : Disk) : Prop :=
  ∃ location content, disk.find .look path = .ok (.entry location (.file content)) ∧
    other.find .look path = .ok (.entry location (.file content))

theorem Supplies.unique {disk : Disk} {names : List String} {classFile : Path} {location : Location}
    {bytes bytes' : ByteArray} (first : Supplies disk classFile location bytes)
    (second : Supplies (disk.sticking names) classFile location bytes') : bytes' = bytes := by
  obtain ⟨found, reached, here, elsewhere⟩ := first
  obtain ⟨found', reached', here', elsewhere'⟩ := second
  obtain rfl : found' = found := Except.ok.inj (reached'.symm.trans reached)
  by_cases same : found'.location = location
  · rw [here same, here' same]
  · have read := (Disk.commutes_readBytes classFile).run (i := names) (elsewhere same)
    have read' : (Disk.readBytes classFile).run (disk.sticking names) = _ := elsewhere' same
    exact Except.ok.inj (congrArg Prod.fst (read'.symm.trans read))

theorem Prepares.unique {prepare : Job Path} {names : List String} {location location' : Location}
    {bytes bytes' : ByteArray} (commutes : Commutes World.sticking prepare)
    (first : Prepares prepare world place location bytes)
    (second : Prepares prepare (world.sticking names) place location' bytes') :
    location' = location ∧ bytes' = bytes := by
  have also := (commutes names world _).mp second
  obtain ⟨_, compiled, ⟨writes, classFile, rfl, supplies⟩, writes', classFile', same, supplies'⟩ :=
    (Ends.and first also).elim
  obtain rfl := Except.ok.inj same
  have there : compiled.disk.WritesAt place location' := writes'
  obtain rfl := there.unique writes
  exact ⟨rfl, supplies.unique supplies'⟩

theorem Delivers.shares {type archive : String} {names : List String} {described described' : Interface}
    {location location' : Location} {bytes bytes' : ByteArray} {after after' : Disk}
    (unaware : implementor.IsUnaware)
    (first : implementor.Delivers type archive world described location bytes after)
    (second : implementor.Delivers type archive (world.sticking names) described' location' bytes' after') :
    SharesFile (placeOf world archive) after after' := by
  obtain ⟨introspected, leads, prepares⟩ := first
  obtain ⟨introspected', leads', prepares'⟩ := second
  obtain ⟨_, _, rfl, same⟩ :=
    (introspected.and ((unaware.introspector type names world _).mp introspected')).elim
  obtain rfl := Except.ok.inj same
  have silent : implementor.silent.IsUnaware := ⟨unaware.introspector, unaware.compiler⟩
  obtain ⟨rfl, rfl⟩ := Prepares.unique (commutes_prepared silent type (.ofText archive)) prepares prepares'
  exact ⟨_, _, leads, leads'⟩

/-- Whichever files cannot be removed, asking for an archive has the same answer, unless they decide whether
the operating system lets the workspace be looked at, or, where the journal does not lie apart from the
archive, whether the journal's file can be written; and if there is an archive, it is the same one, where all
else keeps to its part. -/
theorem generateArchive_sticking (implementor : Implementor) (type archive : String) (names : List String)
    (world : World) (unaware : implementor.IsUnaware) :
    Ends (implementor.generateArchive type (.ofText archive)) world fun r after =>
      Ends (implementor.generateArchive type (.ofText archive)) (world.sticking names) fun r' after' =>
        (r' = r ∨ implementor.Matters type archive names world) ∧
        (implementor.IsSafe type archive world → implementor.IsSafe type archive (world.sticking names) →
          ∀ produced, r = .ok produced → r' = .ok produced → SharesFile produced after.disk after'.disk) := by
  have agrees := @generateArchive_agrees implementor type archive unaware names world
  have first := @generateArchive_delivers implementor type archive world
  have second := @generateArchive_delivers implementor type archive (world.sticking names)
  obtain ⟨r, after, run⟩ := Ends.exists_run (implementor.generateArchive type (.ofText archive)) world
  obtain ⟨r', after', run'⟩ :=
    Ends.exists_run (implementor.generateArchive type (.ofText archive)) (world.sticking names)
  rw [Ends.of_run run] at first
  rw [Ends.of_run run'] at second
  rw [Ends.of_run run, Ends.of_run run'] at agrees ⊢
  refine ⟨agrees, fun safe safe' produced done done' => ?_⟩
  obtain ⟨rfl, described, location, bytes, delivers⟩ := first safe produced done
  obtain ⟨-, described', location', bytes', delivers'⟩ := second safe' _ done'
  exact delivers.shares unaware delivers'

theorem IsOrderly.isSafe {type archive : String} (orderly : implementor.IsOrderly type archive world)
    (no_device : ∀ location, world.disk.Places (placeOf world archive) location →
      world.disk.tree.get? location ≠ some .sink) : implementor.IsSafe type archive world := by
  obtain ⟨silent, named, describes, confined, root, stands, no_link, -⟩ := orderly
  have filed := describes.mono fun r after ends => And.intro ends.1 fun described done =>
    (ends.2 described done).isFiled
  have keeps : implementor.KeepsToPart type world := ⟨named.isUndivided, filed, confined, root, stands⟩
  refine ⟨⟨keeps, fun journal kept => ?_⟩, .inl no_link, no_link.endsInNoDevice (keeps.isPlain archive) no_device⟩
  rw [silent] at kept
  cases kept

/-- Without a journal, nothing that an implementor depends on is different where other files cannot be
removed. -/
theorem IsSafe.sticking {type archive : String} {names : List String}
    (safe : implementor.IsSafe type archive world) (unaware : implementor.IsUnaware)
    (silent : implementor.journal = none) : implementor.IsSafe type archive (world.sticking names) := by
  refine ⟨⟨safe.toKeepsToPart.sticking unaware, fun journal kept => ?_⟩, safe.settled, safe.no_device⟩
  rw [silent] at kept
  cases kept

theorem commutes_placing (entry : Entry) (classpath : List Path) (file : Path) :
    Commutes World.sticking (placing entry classpath file) := by
  refine .bind (.onDisk (.get_bind (fun _ _ => rfl) fun disk => ?_)) fun _ => .pure _
  split
  · exact Disk.commutes_put _ _
  · exact .pure _

theorem isUnaware_shapeMaker (entry : Entry) : (shapeMaker entry).IsUnaware :=
  ⟨fun _ => .ofExcept _, commutes_placing entry⟩

/-- The source file of a type is left where it cannot be removed, and the archive is the same. -/
theorem generateArchive_sticking_shape :
    (shapeMaker (.file (.ofText "code"))).IsUnaware ∧
    (shapeMaker (.file (.ofText "code"))).IsSafe "geo.Shape" "o/j.jar" site ∧
    (shapeMaker (.file (.ofText "code"))).IsSafe "geo.Shape" "o/j.jar" (site.sticking ["ShapeImpl.java"]) ∧
    Ends ((shapeMaker (.file (.ofText "code"))).generateArchive "geo.Shape" (.ofText "o/j.jar")) site
      fun _ after =>
      Ends ((shapeMaker (.file (.ofText "code"))).generateArchive "geo.Shape" (.ofText "o/j.jar"))
        (site.sticking ["ShapeImpl.java"]) fun _ after' =>
        after.disk.tree.get? ["ShapeImpl.java", "geo", "tmp00000001", "o"] = none ∧
        after'.disk.tree.get? ["ShapeImpl.java", "geo", "tmp00000001", "o"] ≠ none ∧
        SharesFile (.ofText "/o/j.jar") after.disk after'.disk := by
  have unaware := isUnaware_shapeMaker (.file (.ofText "code"))
  have orderly := @orderly_archive (.file (.ofText "code")) (by decide +kernel)
  have held : site.disk.tree.get? ["j.jar", "o"] = some (.file (.ofText "old")) := by decide +kernel
  have named : Path.IsName "j.jar" := ⟨by decide, by decide, by decide, by decide⟩
  have safe := orderly.isSafe fun location places sink => by
    rw [eq_of_places_site (by decide +kernel) named places, held] at sink
    cases sink
  have safe' : (shapeMaker (.file (.ofText "code"))).IsSafe "geo.Shape" "o/j.jar"
    (site.sticking ["ShapeImpl.java"]) := safe.sticking unaware rfl
  refine ⟨unaware, safe, safe', ?_⟩
  have sticking := generateArchive_sticking _ "geo.Shape" "o/j.jar" ["ShapeImpl.java"] site unaware
  have ends : Ends ((shapeMaker (.file (.ofText "code"))).generateArchive "geo.Shape" (.ofText "o/j.jar"))
      site fun r after =>
      Ends ((shapeMaker (.file (.ofText "code"))).generateArchive "geo.Shape" (.ofText "o/j.jar"))
        (site.sticking ["ShapeImpl.java"]) fun r' after' =>
        (r.toOption = some (.ofText "/o/j.jar") ∧ r'.toOption = some (.ofText "/o/j.jar")) ∧
        after.disk.tree.get? ["ShapeImpl.java", "geo", "tmp00000001", "o"] = none ∧
        after'.disk.tree.get? ["ShapeImpl.java", "geo", "tmp00000001", "o"] ≠ none := by
    unfold Ends
    decide +kernel
  refine (ends.and sticking).mono fun r after both => (both.1.and both.2).mono fun r' after' both => ?_
  obtain ⟨⟨⟨done, done'⟩, gone, left⟩, -, shares⟩ := both
  exact ⟨gone, left, shares safe safe' _ (eq_ok_of_toOption done) (eq_ok_of_toOption done')⟩

/-- An implementor like that, with a journal where the archive is to be. -/
def misplacing : Implementor := { makingNothing 0 with journal := some ⟨.ofText "o/j.jar", 100⟩ }

/-- The refusal of the operating system that a job ends in, if it does. -/
def refusalOf {α : Type} : Except Fault α → Option OsFault
  | .error (.file (.os refusal)) => some refusal
  | _ => none

/-- Where there is no class file the packaging fails, which is noted in the journal where the partial archive
was; but where that cannot be removed, the failure becomes that of making a directory of the journal. -/
theorem packaging_masked : misplacing.IsUnaware ∧
    Ends (misplacing.generateArchive "geo.Shape" (.ofText "o/j.jar")) site fun r _ =>
      failedStage r = some .packaging ∧
      Ends (misplacing.generateArchive "geo.Shape" (.ofText "o/j.jar")) (site.sticking ["j.jar"]) fun r' _ =>
        refusalOf r' = some ⟨.notDirectory, some "o/j.jar/20240102"⟩ ∧ r' ≠ r := by
  have unaware : misplacing.IsUnaware := ⟨fun _ => .ofExcept _, fun _ _ => .pure _⟩
  have ends : Ends (misplacing.generateArchive "geo.Shape" (.ofText "o/j.jar")) site fun r _ =>
      failedStage r = some .packaging ∧
      Ends (misplacing.generateArchive "geo.Shape" (.ofText "o/j.jar")) (site.sticking ["j.jar"])
        fun r' _ => refusalOf r' = some ⟨.notDirectory, some "o/j.jar/20240102"⟩ := by
    unfold Ends
    decide +kernel
  refine ⟨unaware, ends.mono fun r _ ends => ⟨ends.1, ends.2.mono fun r' _ refused => ⟨refused, ?_⟩⟩⟩
  rintro rfl
  obtain ⟨failure, rfl, -⟩ := failedStage_eq_some ends.1
  cases refused

end Implementor
end JavaStubs

import JavaStubs.Proofs.Jobs
import JavaStubs.Proofs.Workspace.Faults

/-!
Which files cannot be removed. Nothing but the removal of a file depends on it: from two disks that
differ in nothing else, any other operation comes to the same result and leaves two such disks. What a job in
a workspace comes to does not depend on which files are left when the workspace is cleared away.
-/
namespace JavaStubs

variable {ε σ α β : Type}

/-! ## Jobs that a change of the state passes through -/

/-- From a state that was changed in one of some ways, a job ends as it does from the state itself, and in
the state that is left then, changed likewise. -/
def Commutes {ι : Type} (shift : ι → σ → σ) (job : ExceptT ε (StateM σ) α) : Prop :=
  ∀ i s post, Ends job (shift i s) post ↔ Ends job s fun r s' => post r (shift i s')

namespace Commutes

variable {ι : Type} {shift : ι → σ → σ} {job : ExceptT ε (StateM σ) α}

theorem pure (value : α) : Commutes shift (pure value : ExceptT ε (StateM σ) α) :=
  fun _ _ _ => Iff.rfl

theorem throw (fault : ε) : Commutes shift (throw fault : ExceptT ε (StateM σ) α) :=
  fun _ _ _ => Iff.rfl

theorem modify {change : σ → σ} (same : ∀ i s, change (shift i s) = shift i (change s)) :
    Commutes shift (modify change : ExceptT ε (StateM σ) PUnit) := by
  intro i s post
  rw [Ends.modify_iff, Ends.modify_iff, same]

private theorem ends_congr {s : σ} {post other : Except ε α → σ → Prop}
    (same : ∀ r s', post r s' ↔ other r s') : Ends job s post ↔ Ends job s other := by
  unfold Ends
  exact same _ _

theorem bind {next : α → ExceptT ε (StateM σ) β} (first : Commutes shift job)
    (others : ∀ value, Commutes shift (next value)) : Commutes shift (job >>= next) := by
  intro i s post
  rw [Ends.bind_iff, Ends.bind_iff, first]
  refine ends_congr fun r s' => ?_
  cases r with
  | ok value => exact others value i s' post
  | error fault => rfl

/-- What is read of the state does not show the change. -/
theorem get_bind {next : σ → ExceptT ε (StateM σ) α} (same : ∀ i s, next (shift i s) = next s)
    (each : ∀ s, Commutes shift (next s)) : Commutes shift (get >>= next) := by
  intro i s post
  rw [Ends.bind_iff, Ends.bind_iff, Ends.get_iff, Ends.get_iff, onward_ok, onward_ok, same]
  exact each s i s post

theorem tryCatch {handle : ε → ExceptT ε (StateM σ) α} (first : Commutes shift job)
    (others : ∀ fault, Commutes shift (handle fault)) : Commutes shift (tryCatch job handle) := by
  intro i s post
  rw [Ends.tryCatch_iff, Ends.tryCatch_iff, first]
  refine ends_congr fun r s' => ?_
  cases r with
  | ok value => rfl
  | error fault => exact others fault i s' post

theorem ite {condition : Prop} [Decidable condition] {job other : ExceptT ε (StateM σ) α}
    (yes : Commutes shift job) (no : Commutes shift other) :
    Commutes shift (if condition then job else other) := by
  split
  · exact yes
  · exact no

end Commutes

/-! ## Jobs that leave a part of the state -/

/-- A job leaves a part of the state as it was. -/
def LeavesPart {γ : Type} (part : σ → γ) (job : ExceptT ε (StateM σ) α) : Prop :=
  ∀ s, Ends job s fun _ s' => part s' = part s

namespace LeavesPart

variable {γ : Type} {part : σ → γ} {job : ExceptT ε (StateM σ) α}

theorem pure (value : α) : LeavesPart part (pure value : ExceptT ε (StateM σ) α) := fun _ => rfl

theorem throw (fault : ε) : LeavesPart part (throw fault : ExceptT ε (StateM σ) α) := fun _ => rfl

theorem of_reads (reads : Reads job) : LeavesPart part job :=
  fun s => (reads s).mono fun _ _ same => congrArg part same

theorem bind {next : α → ExceptT ε (StateM σ) β} (first : LeavesPart part job)
    (others : ∀ value, LeavesPart part (next value)) : LeavesPart part (job >>= next) := by
  intro s
  rw [Ends.bind_iff]
  refine (first s).mono fun r s' same => ?_
  cases r with
  | ok value => exact (others value s').mono fun _ _ also => also.trans same
  | error fault => exact same

theorem get_bind {next : σ → ExceptT ε (StateM σ) α} (each : ∀ s, LeavesPart part (next s)) :
    LeavesPart part (get >>= next) :=
  .bind (.of_reads .get) each

theorem tryCatch {handle : ε → ExceptT ε (StateM σ) α} (first : LeavesPart part job)
    (others : ∀ fault, LeavesPart part (handle fault)) : LeavesPart part (tryCatch job handle) := by
  intro s
  rw [Ends.tryCatch_iff]
  refine (first s).mono fun r s' same => ?_
  cases r with
  | ok value => exact same
  | error fault => exact (others fault s').mono fun _ _ also => also.trans same

theorem ite {condition : Prop} [Decidable condition] {job other : ExceptT ε (StateM σ) α}
    (yes : LeavesPart part job) (no : LeavesPart part other) : LeavesPart part (if condition then job else other) := by
  split
  · exact yes
  · exact no

theorem yields (leaves : LeavesPart part job) {may : ε → Prop} (any : ∀ fault, may fault) (value : γ) :
    Yields (fun s => part s = value) (fun _ => True) may job := by
  intro s here
  refine (leaves s).mono fun r s' same => ⟨same.trans here, ?_⟩
  cases r with
  | ok _ => trivial
  | error fault => exact any fault

theorem of_yields {good : α → Prop} {may : ε → Prop}
    (yields : ∀ value, Yields (fun s => part s = value) good may job) : LeavesPart part job :=
  fun s => (yields (part s) s rfl).mono fun _ _ ends => ends.1

end LeavesPart

/-! ## Operations on a disk -/

/-- The disk on which the files of other names cannot be removed. -/
def Disk.sticking (names : List String) (disk : Disk) : Disk := { disk with stuck := names }

namespace Disk

theorem commutes_refuse (cause : OsCause) (path : Path) :
    Commutes sticking (refuse cause path : FileJob α) :=
  .throw _

theorem commutes_checkName (path : Path) : Commutes sticking (checkName path) := .ite (.throw _) (.pure _)

theorem commutes_seek (purpose : FileTree.Purpose) (path : Path) :
    Commutes sticking (seek purpose path) := by
  refine .bind (commutes_checkName path) fun _ => .get_bind (fun _ _ => rfl) fun disk => ?_
  split
  · exact .pure _
  · exact commutes_refuse _ _

theorem commutes_probe (path : Path) : Commutes sticking (probe path) := by
  unfold probe
  refine .ite (.pure _) (.get_bind (fun _ _ => rfl) fun disk => ?_)
  split
  · exact .pure _
  · exact .pure _
  · exact .ite (.pure _) (commutes_refuse _ _)

theorem commutes_isDirectory (path : Path) : Commutes sticking (isDirectory path) :=
  .bind (commutes_probe path) fun _ => .pure _

theorem commutes_put (location : Location) (entry : Entry) : Commutes sticking (put location entry) :=
  .modify fun _ _ => rfl

theorem commutes_putNew (location : Location) (entry : Entry) (mode : Nat) :
    Commutes sticking (putNew location entry mode) :=
  .bind (commutes_put location entry) fun _ => .modify fun _ _ => rfl

theorem commutes_putFile (location : Location) (content : Content) :
    Commutes sticking (putFile location content) := by
  refine .get_bind (fun _ _ => rfl) fun disk => ?_
  split
  · exact commutes_putNew _ _ _
  · exact .pure _
  · exact commutes_put _ _

theorem commutes_checkChange (location : Location) (path : Path) :
    Commutes sticking (checkChange location path) :=
  .get_bind (fun _ _ => rfl) fun _ => .ite (commutes_refuse _ _) (.pure _)

theorem commutes_readBytes (path : Path) : Commutes sticking (readBytes path) := by
  refine .bind (.bind (.bind (commutes_seek .look path) fun found => ?_) fun _ => .pure _) fun _ => .pure _
  split
  · exact commutes_refuse _ _
  · exact .get_bind (fun _ _ => rfl) fun _ => .ite (commutes_refuse _ _) (.pure _)
  · exact .pure _
  · exact commutes_refuse _ _
  · exact commutes_refuse _ _

theorem commutes_openForWriting (path : Path) : Commutes sticking (openForWriting path) := by
  refine .bind (commutes_seek .write path) fun found => ?_
  split
  · exact .pure _
  · exact .pure _
  · exact .pure _
  · exact commutes_refuse _ _
  · exact commutes_refuse _ _

theorem commutes_write (path : Path) (content : Content) : Commutes sticking (write path content) :=
  .bind (commutes_openForWriting path) fun _ => .bind (commutes_putFile _ _) fun _ => .pure _

theorem commutes_append (path : Path) (bytes : ByteArray) : Commutes sticking (append path bytes) :=
  .bind (commutes_openForWriting path) fun _ => commutes_putFile _ _

theorem commutes_makeDirectory (path : Path) : Commutes sticking (makeDirectory path) := by
  refine .bind (commutes_seek .entry path) fun found => ?_
  split
  · exact .bind (commutes_checkChange _ _) fun _ => commutes_putNew _ _ _
  · exact commutes_refuse _ _

/-- A directory that is there already will do. -/
private theorem commutes_there (path : Path) (fault : FileFault) :
    Commutes sticking (do if ← isDirectory path then pure () else throw fault) :=
  .bind (commutes_isDirectory path) fun _ => .ite (.pure _) (.throw _)

theorem commutes_ensureDirectory (path : Path) : Commutes sticking (ensureDirectory path) := by
  refine .tryCatch (commutes_makeDirectory path) fun fault => ?_
  split
  · exact .throw _
  · exact commutes_there _ _
  · exact .throw _

theorem commutes_makeDirectories (path : Path) : Commutes sticking (makeDirectories path) := by
  unfold makeDirectories
  generalize path.names.length = above
  induction above generalizing path with
  | zero => exact commutes_ensureDirectory path
  | succ above ih =>
    refine .tryCatch (commutes_makeDirectory path) fun fault => ?_
    split
    · exact .bind (ih _) fun _ => commutes_ensureDirectory path
    · exact commutes_there _ _
    · exact .throw _

end Disk

/-! ## Jobs on a world -/

/-- The world on whose disk the files of other names cannot be removed. -/
def World.sticking (names : List String) (world : World) : World :=
  { world with disk := world.disk.sticking names }

namespace Commutes

theorem onDisk {job : FileJob α} (commutes : Commutes Disk.sticking job) :
    Commutes World.sticking (Job.onDisk job) := by
  intro names world post
  rw [Ends.onDisk_iff, Ends.onDisk_iff]
  exact commutes names world.disk _

theorem attempt {job : Job α} (commutes : Commutes World.sticking job) :
    Commutes World.sticking (Job.attempt job) := by
  intro names world post
  rw [Ends.attempt_iff, Ends.attempt_iff]
  exact commutes names world _

theorem record (level : LogLevel) (source message : String) :
    Commutes World.sticking (Job.record level source message) :=
  modify fun _ _ => rfl

theorem ofExcept (outcome : Except Fault α) : Commutes World.sticking (Job.ofExcept outcome) := by
  cases outcome
  · exact throw _
  · exact pure _

theorem refused {job : Job α} {turn : OsFault → Fault} (commutes : Commutes World.sticking job) :
    Commutes World.sticking (Job.refused job turn) := by
  refine tryCatch commutes fun fault => ?_
  split <;> exact throw _

end Commutes

/-! ## Where the program stands -/

/-- Where on a disk the program stands, and the mask for the files that it makes. -/
def Disk.standing (disk : Disk) : Location × Nat := (disk.here, disk.mask)

/-- Where in a world the program stands. -/
def World.standing (world : World) : Location × Nat := world.disk.standing

/-- What a journal goes by besides the files. -/
def World.journalView (world : World) : Instant × Option Path × Location × Nat :=
  (world.now, world.journalFile, world.standing)

theorem World.journalView_disk {world : World} {disk : Disk} (same : disk.standing = world.disk.standing) :
    World.journalView { world with disk := disk } = world.journalView :=
  congrArg (world.now, world.journalFile, ·) same

namespace Disk

theorem leaves_removeFile (path : Path) : LeavesPart standing (removeFile path) := fun _ =>
  removeFile_ends (fun _ _ _ _ => rfl) fun _ _ => rfl

theorem leaves_removeDirectory (path : Path) : LeavesPart standing (removeDirectory path) := fun _ =>
  removeDirectory_ends (fun _ _ _ => rfl) fun _ _ => rfl

theorem leaves_putFile (location : Location) (content : Content) : LeavesPart standing (putFile location content) :=
  fun _ => putFile_ends (fun _ _ => rfl) (fun _ => rfl) fun _ _ => rfl

theorem leaves_write (path : Path) (content : Content) : LeavesPart standing (write path content) := by
  have opens : LeavesPart standing (openForWriting path) := fun _ =>
    openForWriting_ends (fun _ _ _ _ _ => rfl) fun _ _ => rfl
  exact .bind opens fun _ => .bind (leaves_putFile _ _) fun _ => .pure _

theorem leaves_makeDirectory (path : Path) : LeavesPart standing (makeDirectory path) := fun _ =>
  makeDirectory_ends (fun _ _ _ => rfl) fun _ _ => rfl

theorem leaves_ensureDirectory (path : Path) : LeavesPart standing (ensureDirectory path) := fun _ =>
  ensureDirectory_ends (fun _ _ _ => rfl) (fun _ _ => rfl) fun _ => rfl

theorem leaves_makeDirectories (path : Path) : LeavesPart standing (makeDirectories path) := by
  unfold makeDirectories
  generalize path.names.length = above
  induction above generalizing path with
  | zero => exact leaves_ensureDirectory path
  | succ above ih =>
    refine .tryCatch (leaves_makeDirectory path) fun fault => ?_
    split
    · exact .bind (ih _) fun _ => leaves_ensureDirectory path
    · exact .bind (.bind (.of_reads (reads_probe path)) fun _ => .pure _) fun _ => .ite (.pure _) (.throw _)
    · exact .throw _

end Disk

namespace LeavesPart

/-- Where on the disk of a world the program stands. -/
theorem onDisk {job : FileJob α} (leaves : LeavesPart Disk.standing job) :
    LeavesPart World.standing (Job.onDisk job) := by
  intro world
  rw [Ends.onDisk_iff]
  exact leaves world.disk

theorem attempt {γ : Type} {part : World → γ} {job : Job α} (leaves : LeavesPart part job) :
    LeavesPart part (Job.attempt job) := by
  intro world
  rw [Ends.attempt_iff]
  exact leaves world

theorem refused {γ : Type} {part : World → γ} {job : Job α} {turn : OsFault → Fault} (leaves : LeavesPart part job) :
    LeavesPart part (Job.refused job turn) := by
  refine tryCatch leaves fun fault => ?_
  split <;> exact throw _

theorem ofExcept {γ : Type} {part : World → γ} (outcome : Except Fault α) :
    LeavesPart part (Job.ofExcept outcome) := by
  cases outcome
  · exact throw _
  · exact pure _

end LeavesPart

/-! ## Jobs that agree -/

/-- From worlds that differ in which files cannot be removed, a job comes to the same result, and if it
succeeds it leaves two such worlds. -/
def Job.Agrees (job : Job α) : Prop :=
  ∀ names world, Ends job world fun r after => Ends job (world.sticking names) fun r' after' =>
    r' = r ∧ after'.journalView = after.journalView ∧ ∀ value, r = .ok value → after' = after.sticking names

theorem Commutes.run {ε σ ι : Type} {shift : ι → σ → σ} {job : ExceptT ε (StateM σ) α} {i : ι}
    {s s' : σ} {r : Except ε α} (commutes : Commutes shift job) (run : job.run s = (r, s')) :
    job.run (shift i s) = (r, shift i s') := by
  have ends := (commutes i s fun r' s'' => r' = r ∧ s'' = shift i s').mpr
    ((Ends.of_run run).mpr ⟨rfl, rfl⟩)
  exact Prod.ext ends.1 ends.2

theorem Job.Agrees.bind {job : Job α} {next : α → Job β} (first : Commutes World.sticking job)
    (others : ∀ value, Job.Agrees (next value)) : Job.Agrees (job >>= next) := by
  intro names world
  obtain ⟨r, after, run⟩ := Ends.exists_run job world
  rw [Ends.bind_iff, Ends.of_run run]
  cases r with
  | error fault =>
    rw [onward_error, Ends.bind_iff, Ends.of_run (first.run run)]
    exact ⟨rfl, rfl, nofun⟩
  | ok value =>
    rw [onward_ok]
    refine (others value names after).mono fun r after' ends => ?_
    rw [Ends.bind_iff, Ends.of_run (first.run run), onward_ok]
    exact ends

namespace Workspace

/-! ## Making -/

theorem commutes_makeNamed (text : String) : Commutes Disk.sticking (makeNamed text) := by
  refine .tryCatch (.ite (.bind (Disk.commutes_refuse _ _) fun _ => ?_) ?_) fun fault => ?_
  case refine_3 => split <;> exact .throw _
  all_goals
    refine .bind (Disk.commutes_makeDirectory _) fun _ => .get_bind (fun _ _ => rfl) fun disk => ?_
    split
    · exact .bind (.modify fun _ _ => rfl) fun _ => .pure _
    · exact .pure _

theorem commutes_makeFresh (parent : Path) (start : String) (attempts : Nat) :
    Commutes World.sticking (makeFresh parent start attempts) := by
  induction attempts with
  | zero => exact .throw _
  | succ attempts ih =>
    refine .bind (.modify fun _ _ => rfl) fun _ => .get_bind (fun _ _ => rfl) fun world => ?_
    refine .bind (.attempt (.onDisk (commutes_makeNamed _))) fun r => ?_
    split
    · exact .pure _
    · exact ih
    · exact .throw _

theorem commutes_absolute (path : Path) : Commutes World.sticking (absolute path) :=
  .get_bind (fun _ _ => rfl) fun _ => .pure _

theorem commutes_acquire (archive : Path) (start : String) :
    Commutes World.sticking (acquire archive start) := by
  refine .bind (commutes_absolute archive) fun place => ?_
  refine .bind (.refused (.onDisk (Disk.commutes_makeDirectories _))) fun _ => ?_
  exact .refused (commutes_makeFresh _ _ _)

/-! ## Jobs in a workspace -/

variable {archive : Path} {start : String} {body : Path → Job α}

theorem entered_agrees (agrees : ∀ workspace, Job.Agrees (body workspace)) :
    Job.Agrees (entered archive start body) :=
  .bind (commutes_acquire archive start) fun workspace => .bind (.record _ _ _) fun _ => agrees workspace

theorem leaves_release (workspace : Path) : LeavesPart Disk.standing (release workspace) := by
  refine LeavesPart.bind (.of_reads (Disk.reads_probe workspace)) fun found => ?_
  split
  · exact .pure _
  · have cleared (fuel : Nat) : LeavesPart Disk.standing (clear fuel workspace) :=
      .of_yields fun value => clear_yields (fun _ _ _ _ _ _ _ => trivial)
        (fun path (_ : True) => (Disk.leaves_removeFile path).yields (fun _ => .inr trivial) value)
        (fun path _ => (Disk.leaves_removeDirectory path).yields (fun _ => .inr trivial) value) trivial
    have last : LeavesPart Disk.standing (issueOf workspace (Disk.removeDirectory workspace)) :=
      .of_yields fun value => issueOf_yields
        ((Disk.leaves_removeDirectory workspace).yields (fun _ => .inr trivial) value)
    exact .get_bind fun _ => .bind (cleared _) fun _ => .bind last fun _ => .pure _

theorem leaves_makeNamed (text : String) : LeavesPart Disk.standing (makeNamed text) := by
  refine .tryCatch (.ite (.bind (.throw _) fun _ => ?_) ?_) fun fault => ?_
  case refine_3 => split <;> exact .throw _
  all_goals
    refine .bind (Disk.leaves_makeDirectory _) fun _ => .get_bind fun disk => ?_
    split
    · exact .bind (fun _ => rfl) fun _ => .pure _
    · exact .pure _

theorem leaves_makeFresh (parent : Path) (start : String) (attempts : Nat) :
    LeavesPart World.standing (makeFresh parent start attempts) := by
  induction attempts with
  | zero => exact .throw _
  | succ attempts ih =>
    refine .bind (fun _ => rfl) fun _ => .get_bind fun world => ?_
    refine .bind (.attempt (.onDisk (leaves_makeNamed _))) fun r => ?_
    split
    · exact .pure _
    · exact ih
    · exact .throw _

theorem leaves_acquire (archive : Path) (start : String) :
    LeavesPart World.standing (acquire archive start) := by
  refine .get_bind fun world => .bind (.refused (.onDisk (Disk.leaves_makeDirectories _))) fun _ => ?_
  exact .refused (leaves_makeFresh _ _ _)

theorem leaves_warn (issues : List CleanupIssue) :
    LeavesPart World.standing (warn issues) := by
  refine fun world => (warn_ends issues world).mono fun r after ends => ?_
  obtain ⟨-, log, rfl⟩ := ends
  rfl

/-- A job in a workspace leaves the program where it stood, if it does so in itself. -/
theorem leaves_within {archive : Path} {start : String} {body : Path → Job α}
    (leaves : ∀ workspace, LeavesPart World.standing (body workspace)) :
    LeavesPart World.standing (within archive start body) := by
  refine .bind (leaves_acquire archive start) fun workspace => .bind (fun _ => rfl) fun _ => ?_
  refine .bind (.attempt (leaves workspace)) fun r => .bind (.onDisk (leaves_release workspace)) fun issues => ?_
  exact .bind (leaves_warn issues) fun _ => .ofExcept r

/-- When a job in a workspace has ended and the workspace is released, the program stands where the job left it. -/
theorem within_standing (archive : Path) (start : String) (body : Path → Job α) (world : World) :
    Ends (within archive start body) world fun _ after =>
      Ends (entered archive start body) world fun _ left => after.journalView = left.journalView := by
  obtain ⟨made, ready, run⟩ := Ends.exists_run (acquire archive start) world
  unfold within entered
  simp only [Ends.bind_iff, Ends.of_run run]
  cases made with
  | error fault => rfl
  | ok workspace =>
    simp only [onward_ok, Ends.bind_iff, Ends.record_iff, Ends.attempt_iff]
    obtain ⟨r, left, run⟩ := Ends.exists_run (body workspace) { ready with log := ready.log ++
      [⟨.debug, source, s!"acquired workspace {workspace.text}"⟩] }
    simp only [Ends.of_run run, Ends.onDisk_iff]
    refine (leaves_release workspace left.disk).mono fun released after same => ?_
    have stands := World.journalView_disk same
    cases released with
    | error fault => exact stands
    | ok issues =>
      rw [mapError_ok, onward_ok, Ends.bind_iff]
      refine (warn_ends issues _).mono fun warned last ends => ?_
      obtain ⟨rfl, log, rfl⟩ := ends
      rw [onward_ok, Ends.ofExcept_iff]
      exact stands

/-- Whichever files cannot be removed, a job in a workspace comes to the same result, unless releasing the
workspace ends in a fault. -/
theorem within_agrees (agrees : ∀ workspace, Job.Agrees (body workspace)) (names : List String)
    (world : World) : Ends (within archive start body) world fun r after =>
      Ends (within archive start body) (world.sticking names) fun r' after' =>
        after'.journalView = after.journalView ∧ (r' = r ∨
          ∃ fault, Unreleased archive start body world fault ∨
            Unreleased archive start body (world.sticking names) fault) := by
  obtain ⟨inner, entering, run⟩ := Ends.exists_run (entered archive start body) world
  obtain ⟨inner', entering', run'⟩ :=
    Ends.exists_run (entered archive start body) (world.sticking names)
  have both := @entered_agrees _ archive start body agrees names world
  rw [Ends.of_run run, Ends.of_run run'] at both
  obtain ⟨same, stands, -⟩ := both
  refine ((within_cases archive start body world).and (within_standing archive start body world)).mono
    fun r after first => ?_
  refine ((within_cases archive start body (world.sticking names)).and (within_standing archive start body _)).mono
    fun r' after' second => ?_
  rw [Ends.of_run run, Ends.of_run run] at first
  rw [Ends.of_run run', Ends.of_run run'] at second
  obtain ⟨first, left⟩ := first
  obtain ⟨second, left'⟩ := second
  refine ⟨(left'.trans stands).trans left.symm, ?_⟩
  rcases first with rfl | ⟨fault, -, unreleased⟩
  · rcases second with rfl | ⟨fault, -, unreleased⟩
    · exact .inl same
    · exact .inr ⟨fault, .inr unreleased⟩
  · exact .inr ⟨fault, .inl unreleased⟩

end Workspace
end JavaStubs

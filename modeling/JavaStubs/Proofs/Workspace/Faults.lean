import JavaStubs.Proofs.Files.Refusals
import JavaStubs.Proofs.Workspace.Within

/-!
The faults of jobs in workspaces. A workspace that cannot be made is the failure of a stage. What is
refused while one is cleared away becomes an issue, so that there is only the refusal to look at the
workspace at all. Besides these there is the fault of a name with NUL, but only where there is one.
-/
namespace JavaStubs

/-- The failure of a stage, or the fault of a name with NUL where there is one. -/
inductive Fault.IsKnown (unspelled : Prop) : Fault → Prop where
  | stage (failure : StageFault) : IsKnown unspelled (.stage failure)
  | nul (there : unspelled) : IsKnown unspelled (.file .nulInName)

/-- As `IsKnown`, or a refusal of the operating system. -/
def Fault.IsRaw (unspelled : Prop) (fault : Fault) : Prop :=
  (∃ refusal, fault = .file (.os refusal)) ∨ fault.IsKnown unspelled

/-- Wherever it is run, a job ends in the failure of a stage if it fails, unless a name has NUL. -/
def Job.Fails {α : Type} (unspelled : Prop) (good : α → Prop) (job : Job α) : Prop :=
  Yields (fun _ => True) good (Fault.IsKnown unspelled) job

/-- As `Fails`, or it ends in a refusal of the operating system. -/
def Job.FailsRaw {α : Type} (unspelled : Prop) (good : α → Prop) (job : Job α) : Prop :=
  Yields (fun _ => True) good (Fault.IsRaw unspelled) job

namespace Job

variable {α : Type} {unspelled : Prop} {good : α → Prop} {path : Path}

theorem FailsRaw.onDisk {job : FileJob α} (concerns : Disk.Concerns path job)
    (spelled : Path.hasNul path.text = true → unspelled) :
    FailsRaw unspelled (fun _ => True) (Job.onDisk job) := by
  intro world _
  rw [Ends.onDisk_iff]
  refine (concerns world.disk trivial).mono fun r after ends => ⟨trivial, ?_⟩
  cases r with
  | ok value => trivial
  | error fault =>
    cases ends.2 with
    | os refusal => exact .inl ⟨refusal, rfl⟩
    | nul there => exact .inr (.nul (spelled there))

theorem FailsRaw.refused {job : Job α} {turn : OsFault → StageFault}
    (raw : FailsRaw unspelled good job) :
    Fails unspelled good (Job.refused job fun fault => .stage (turn fault)) := by
  refine Yields.tryCatch raw fun fault known => ?_
  split
  · exact Yields.throw (.stage _)
  · next other =>
    rcases known with ⟨refusal, rfl⟩ | known
    · exact absurd rfl (other refusal)
    · exact Yields.throw known

theorem Fails.raw {job : Job α} (fails : Fails unspelled good job) : FailsRaw unspelled good job :=
  Yields.mono fails (fun _ known => known) fun _ => .inr

end Job

/-- No name in a tree has NUL in it. -/
def FileTree.IsSpelled (tree : FileTree) : Prop :=
  ∀ name directory, tree.get? (name :: directory) ≠ none → Path.hasNul name = false

theorem FileTree.IsSpelled.erase {tree : FileTree} (spelled : tree.IsSpelled) (location : Location) :
    (tree.erase location).IsSpelled := by
  intro name directory there
  refine spelled name directory fun vacant => there ?_
  simp only [FileTree.get?] at vacant
  simp only [FileTree.get?, FileTree.erase, FileTree.lookup_filter_ne, vacant, ite_self]

namespace Workspace

open Disk (IsFaultOf Concerns)

variable {spelled : Prop} {path workspace : Path} {disk : Disk} {α : Type}

/-- The names on a disk are free of NUL if those were that something started from. -/
def Spells (spelled : Prop) (disk : Disk) : Prop := spelled → disk.tree.IsSpelled

/-- The fault of a name with NUL. -/
def IsUnspelled (spelled : Prop) (fault : FileFault) : Prop := fault = .nulInName ∧ ¬ spelled

/-- An operation leaves names without NUL, and in them it finds none. -/
def Removes (spelled : Prop) (job : FileJob α) : Prop :=
  Yields (Spells spelled) (fun _ => True)
    (fun fault => (∃ refusal, fault = .os refusal) ∨ IsUnspelled spelled fault) job

/-- As `Removes`, but what is refused is no fault. -/
def Clears (spelled : Prop) (job : FileJob α) : Prop :=
  Yields (Spells spelled) (fun _ => True) (IsUnspelled spelled) job

/-- An operation on a path in which there is no NUL. -/
theorem removes_of_concerns {job : FileJob α} (free : spelled → Path.hasNul path.text = false)
    (concerns : Concerns path job)
    (keeps : ∀ disk, Ends job disk fun _ after => disk.tree.IsSpelled → after.tree.IsSpelled) :
    Removes spelled job := by
  intro disk spells
  refine ((concerns disk trivial).and (keeps disk)).mono fun r after ends => ?_
  obtain ⟨⟨-, outcome⟩, kept⟩ := ends
  refine ⟨fun holds => kept (spells holds), ?_⟩
  cases r with
  | ok value => trivial
  | error fault =>
    cases outcome with
    | os refusal => exact .inl ⟨refusal, rfl⟩
    | nul there => exact .inr ⟨rfl, fun holds => by simp [free holds] at there⟩

theorem removes_removeFile (free : spelled → Path.hasNul path.text = false) :
    Removes spelled (Disk.removeFile path) := by
  refine removes_of_concerns free (Disk.concerns_removeFile path) fun disk => ?_
  exact Disk.removeFile_ends (fun location _ _ _ spelled => spelled.erase location)
    fun _ _ spelled => spelled

theorem removes_removeDirectory (free : spelled → Path.hasNul path.text = false) :
    Removes spelled (Disk.removeDirectory path) := by
  refine removes_of_concerns free (Disk.concerns_removeDirectory path) fun disk => ?_
  exact Disk.removeDirectory_ends (fun location _ _ spelled => spelled.erase location)
    fun _ _ spelled => spelled

/-! ### What clearing preserves -/

section Preserving
variable {inv : Disk → Prop} {may : FileFault → Prop}

/-- A removal that is refused becomes an issue. -/
theorem issueOf_yields {job : FileJob Unit}
    (removes : Yields inv (fun _ => True) (fun fault => (∃ refusal, fault = .os refusal) ∨ may fault) job) :
    Yields inv (fun _ => True) may (issueOf path job) := by
  refine Yields.tryCatch (Yields.bind removes fun _ _ => Yields.pure trivial) fun fault known => ?_
  rcases known with ⟨refusal, rfl⟩ | known
  · exact Yields.pure trivial
  · cases fault with
    | os refusal => exact Yields.pure trivial
    | _ => exact Yields.throw known

/-- Clearing a path of some kind away preserves what the removals do that it consists of. -/
theorem clear_yields {kind : Path → Prop} {fuel : Nat}
    (inside : ∀ disk path name location, inv disk → kind path → disk.tree.get? (name :: location) ≠ none →
      kind (path.child name))
    (file : ∀ path, kind path → Yields inv (fun _ => True)
      (fun fault => (∃ refusal, fault = .os refusal) ∨ may fault) (Disk.removeFile path))
    (directory : ∀ path, kind path → Yields inv (fun _ => True)
      (fun fault => (∃ refusal, fault = .os refusal) ∨ may fault) (Disk.removeDirectory path))
    (is : kind path) : Yields inv (fun _ => True) may (clear fuel path) := by
  have refuse (path : Path) (cause : OsCause) :
      Yields inv (fun _ => True) may (issueOf path (Disk.refuse cause path)) :=
    issueOf_yields (Yields.throw (.inl ⟨_, rfl⟩))
  induction fuel generalizing path with
  | zero => exact Yields.pure trivial
  | succ fuel ih =>
    intro disk holds
    unfold clear
    rw [Ends.bind_iff, Ends.get_iff, onward_ok]
    split
    · exact refuse _ _ disk holds
    · exact refuse _ _ disk holds
    · next location reached =>
      rw [Ends.bind_iff, Ends.get_iff, onward_ok]
      split
      · exact refuse _ _ disk holds
      · rw [Ends.bind_iff]
        refine namesIn_ends fun files directories parts _ _ => ?_
        rw [onward_ok]
        have known (name : String) (member : name ∈ files ∨ name ∈ directories) : kind (path.child name) :=
          inside disk path name location holds is
            (FileTree.mem_children.mp (parts.mem_iff.mp (List.mem_append.mpr member)))
        have below : Yields inv (fun _ => True) may (directories.mapM fun name => do
            if (← get).tree.get? (name :: location) = some .directory then clear fuel (path.child name)
            else return []) := by
          refine .mapM fun name member => Yields.bind .get fun disk _ => ?_
          split
          · exact ih (known name (.inr member))
          · exact Yields.pure trivial
        have first : Yields inv (fun _ => True) may (files.mapM fun name =>
            issueOf (path.child name) (Disk.removeFile (path.child name))) :=
          .mapM fun name member => issueOf_yields (file _ (known name (.inl member)))
        have last : Yields inv (fun _ => True) may (directories.mapM fun name =>
            issueOf (path.child name) (removeDirectory (path.child name))) := by
          refine .mapM fun name member => issueOf_yields ?_
          refine Yields.bind (Yields.bind .get fun disk _ => ?_ : Yields _ (fun _ => True) _ _)
            fun link _ => ?_
          · split <;> exact Yields.pure trivial
          · split
            · exact file _ (known name (.inr member))
            · exact directory _ (known name (.inr member))
        exact Yields.bind below (fun _ _ => Yields.bind first fun _ _ => Yields.bind last
          fun _ _ => Yields.pure trivial) disk holds
    · exact refuse _ _ disk holds

end Preserving

theorem clear_clears {fuel : Nat} (free : spelled → Path.hasNul path.text = false) :
    Clears spelled (clear fuel path) := by
  have inside (disk : Disk) (path : Path) (name : String) (location : Location) (spells : Spells spelled disk)
      (free : spelled → Path.hasNul path.text = false) (there : disk.tree.get? (name :: location) ≠ none)
      (holds : spelled) : Path.hasNul (path.child name).text = false := by
    have name_free := spells holds name location there
    refine Bool.eq_false_iff.mpr fun nul => ?_
    rcases Path.hasNul_of_child nul with nul | nul
    · simp [free holds] at nul
    · simp [name_free] at nul
  exact clear_yields inside (fun _ => removes_removeFile) (fun _ => removes_removeDirectory) free

/-! ## Making -/

section Making
open Job (Fails FailsRaw)
variable {parent archive : Path} {start : String} {unspelled : Prop}

theorem makeNamed_yields (text : String) :
    Yields (fun _ => True) (· = Path.ofText text) (IsFaultOf (Path.ofText text)) (makeNamed text) := by
  refine Yields.tryCatch (?_ : Yields _ _ (IsFaultOf (Path.ofText text)) _) fun fault known => ?_
  · dsimp only
    split
    · have refused : Yields (fun _ => True) (fun _ => False) (IsFaultOf (Path.ofText text))
          (Disk.refuse (α := Unit) .nameTooLong (Path.ofText text)) := Yields.throw (.os _)
      exact Yields.bind refused fun _ none => none.elim
    · refine Yields.bind (Disk.concerns_makeDirectory _) fun _ _ => Yields.bind .get fun disk _ => ?_
      split
      · exact Yields.bind (Concerns.modify _) fun _ _ => Yields.pure rfl
      · exact Yields.pure rfl
  · split
    · exact Yields.throw (.os _)
    · exact Yields.throw known

/-- What there is in the text of a workspace is in the path of its directory or in its name. -/
theorem hasNul_of_joined {serial : Nat}
    (nul : Path.hasNul (joined parent (nameOf start serial)) = true) :
    Path.hasNul parent.text = true ∨ Path.hasNul start = true := by
  have digits : Path.hasNul (inDigits 8 serial) = false := by
    refine Bool.eq_false_iff.mpr fun nul => ?_
    exact absurd (isDigit_inDigits (Path.hasNul_iff.mp nul)) (by decide)
  have of_name (nul : Path.hasNul (nameOf start serial) = true) : Path.hasNul start = true := by
    rwa [nameOf, Path.hasNul_append, digits, Bool.or_false] at nul
  unfold joined at nul
  dsimp only at nul
  split at nul
  · exact .inr (of_name nul)
  · split at nul
    · rw [Path.hasNul_append, Bool.or_eq_true] at nul
      exact nul.imp_right of_name
    · have separator : Path.hasNul "/" = false := by decide
      rw [Path.hasNul_append, Path.hasNul_append, separator, Bool.or_false, Bool.or_eq_true] at nul
      exact nul.imp_right of_name

theorem makeFresh_fails (of_parent : Path.hasNul parent.text = true → unspelled)
    (of_start : Path.hasNul start = true → unspelled) (attempts : Nat) :
    FailsRaw unspelled (fun workspace => Path.hasNul workspace.text = true → unspelled)
      (makeFresh parent start attempts) := by
  induction attempts with
  | zero => exact Yields.throw (.inl ⟨_, rfl⟩)
  | succ attempts ih =>
    intro world _
    unfold makeFresh
    rw [Ends.bind_iff, Ends.modify_iff, onward_ok, Ends.bind_iff, Ends.get_iff, onward_ok,
      Ends.bind_iff, Ends.attempt_iff, Ends.onDisk_iff]
    dsimp only
    have spelled (nul : Path.hasNul (Path.ofText
        (joined parent (nameOf start (world.serial + 1)))).text = true) : unspelled :=
      (hasNul_of_joined (Path.hasNul_of_ofText nul)).elim of_parent of_start
    refine (makeNamed_yields _ world.disk trivial).mono fun r after ends => ?_
    rw [onward_ok]
    cases r with
    | ok workspace =>
      obtain rfl := ends.2
      exact ⟨trivial, spelled⟩
    | error fault =>
      rw [mapError_error]
      split
      · next same => cases same
      · exact ih _ trivial
      · next raised same =>
        obtain rfl := Except.error.inj same
        cases ends.2 with
        | os refusal => exact ⟨trivial, .inl ⟨refusal, rfl⟩⟩
        | nul there => exact ⟨trivial, .inr (.nul (spelled there))⟩

theorem acquire_fails (absolute : archive.isAbsolute = true)
    (of_archive : Path.hasNul archive.text = true → unspelled)
    (of_start : Path.hasNul start = true → unspelled) :
    Fails unspelled (fun workspace => Path.hasNul workspace.text = true → unspelled)
      (acquire archive start) := by
  have of_parent (here : Path)
      (nul : Path.hasNul (Path.absoluteFrom here archive).parent.text = true) : unspelled :=
    of_archive (Path.hasNul_of_absoluteFrom absolute (Path.hasNul_of_parent nul))
  intro world _
  unfold acquire Workspace.absolute
  rw [Ends.bind_iff, Ends.bind_iff, Ends.get_iff, onward_ok, Ends.pure_iff, onward_ok]
  have above := of_parent world.disk.here.path
  refine Yields.bind (FailsRaw.onDisk (Disk.concerns_makeDirectories _) above).refused (fun _ _ => ?_)
    world trivial
  exact (makeFresh_fails above of_start attempts).refused

end Making

/-! ## Releasing -/

/-- Releasing a workspace ends in a fault only if the operating system refuses to look at it, or if there
is a name with NUL. -/
theorem release_faults : Ends (release workspace) disk fun r _ => ∀ fault, r = .error fault →
    (∃ refusal, fault = .os refusal ∧ Ends (Disk.probe workspace) disk fun r _ => r = .error (.os refusal)) ∨
      fault = .nulInName ∧ ¬ (Path.hasNul workspace.text = false ∧ disk.tree.IsSpelled) := by
  obtain ⟨r, after, run⟩ := Ends.exists_run (Disk.probe workspace) disk
  have probed : Ends (Disk.probe workspace) disk fun r after => after = disk ∧
      ∀ fault, r = .error fault → ∃ refusal, fault = .os refusal := by
    refine Disk.probe_ends (fun _ _ _ => ⟨rfl, nofun⟩) ⟨rfl, nofun⟩ fun refusal => ⟨rfl, ?_⟩
    intro fault same
    exact ⟨refusal, (Except.error.inj same).symm⟩
  rw [Ends.of_run run] at probed
  obtain ⟨rfl, refused⟩ := probed
  unfold release
  rw [Ends.bind_iff, Ends.of_run run]
  cases r with
  | error fault =>
    obtain ⟨refusal, rfl⟩ := refused fault rfl
    intro fault same
    cases same
    exact .inl ⟨refusal, rfl, (Ends.of_run run).mpr rfl⟩
  | ok found =>
    rw [onward_ok]
    cases found with
    | none => exact nofun
    | some found =>
      have cleared : Clears (Path.hasNul workspace.text = false ∧ after.tree.IsSpelled) (do
          let issues ← clear ((← get).tree.entries.length + 1) workspace
          return issues ++ (← issueOf workspace (Disk.removeDirectory workspace))) := by
        refine Yields.bind .get fun _ _ => Yields.bind (clear_clears And.left) fun _ _ => ?_
        exact Yields.bind (issueOf_yields (removes_removeDirectory And.left)) fun _ _ => Yields.pure trivial
      refine (cleared after And.right).mono fun r _ ends fault same => ?_
      subst same
      exact .inr ends.2

/-! ## Jobs in a workspace -/

section Within
variable {archive : Path} {start : String} {body : Path → Job α} {world : World}

/-- The workspace of a job when the job has ended, before it is released. -/
def vacated (archive : Path) (start : String) (body : Path → Job α) : Job Path :=
  entered archive start fun workspace => do
    let _ ← Job.attempt (body workspace)
    return workspace

/-- Jobs in a workspace all end as making it does, if that fails, or else are all run with one workspace
and from one world. -/
theorem entered_cases (archive : Path) (start : String) (world : World) :
    (∃ fault, Ends (acquire archive start) world (fun r _ => r = .error fault) ∧
      ∀ {β : Type} (job : Path → Job β),
        Ends (entered archive start job) world fun r _ => r = .error fault) ∨
    ∃ workspace ready, Ends (acquire archive start) world (fun r _ => r = .ok workspace) ∧
      ∀ {β : Type} (job : Path → Job β) (post : Except Fault β → World → Prop),
        Ends (entered archive start job) world post ↔ Ends (job workspace) ready post := by
  obtain ⟨r, made, run⟩ := Ends.exists_run (acquire archive start) world
  cases r with
  | error fault =>
    refine .inl ⟨fault, (Ends.of_run run).mpr rfl, fun job => ?_⟩
    unfold entered
    rw [Ends.bind_iff, Ends.of_run run]
    rfl
  | ok workspace =>
    exact .inr ⟨workspace, _, (Ends.of_run run).mpr rfl, fun job post => entered_iff run⟩

/-- When a job in a workspace has ended, releasing the workspace ends in a fault. -/
def Unreleased (archive : Path) (start : String) (body : Path → Job α) (world : World)
    (fault : FileFault) : Prop :=
  Ends (vacated archive start body) world fun r left => ∃ workspace, r = .ok workspace ∧
    Ends (release workspace) left.disk fun r _ => r = .error fault

/-- A job in a workspace ends as it does there, or in the fault of releasing the workspace. -/
theorem within_cases (archive : Path) (start : String) (body : Path → Job α) (world : World) :
    Ends (within archive start body) world fun r _ =>
      Ends (entered archive start body) world (fun inner _ => r = inner) ∨
        ∃ fault, r = .error (.file fault) ∧ Unreleased archive start body world fault := by
  obtain ⟨made, ready, run⟩ := Ends.exists_run (acquire archive start) world
  unfold within Unreleased vacated entered
  simp only [Ends.bind_iff, Ends.of_run run]
  cases made with
  | error fault => exact .inl rfl
  | ok workspace =>
    simp only [onward_ok, Ends.bind_iff, Ends.record_iff, Ends.attempt_iff]
    obtain ⟨r, left, run⟩ := Ends.exists_run (body workspace) { ready with log := ready.log ++
      [⟨.debug, source, s!"acquired workspace {workspace.text}"⟩] }
    simp only [Ends.of_run run, Ends.onDisk_iff, Ends.pure_iff]
    obtain ⟨released, after, clearing⟩ := Ends.exists_run (release workspace) left.disk
    rw [Ends.of_run clearing]
    cases released with
    | error fault => exact .inr ⟨fault, rfl, workspace, rfl, (Ends.of_run clearing).mpr rfl⟩
    | ok issues =>
      rw [mapError_ok, onward_ok, Ends.bind_iff]
      refine (warn_ends issues _).mono fun warned _ ends => ?_
      obtain ⟨rfl, -⟩ := ends
      rw [onward_ok, Ends.ofExcept_iff]
      exact .inl rfl

/-- A job in a workspace ends in the fault that it would end in otherwise, or in one of releasing the
workspace. -/
theorem within_faults : Ends (within archive start body) world fun r _ => ∀ fault, r = .error fault →
    Ends (entered archive start body) world (fun r _ => r = .error fault) ∨
      Ends (vacated archive start body) world fun r after => ∃ workspace, r = .ok workspace ∧
        ((∃ refusal, fault = .file (.os refusal) ∧
            Ends (Disk.probe workspace) after.disk fun r _ => r = .error (.os refusal)) ∨
          fault = .file .nulInName ∧
            ¬ (Path.hasNul workspace.text = false ∧ after.disk.tree.IsSpelled)) := by
  refine (within_cases archive start body world).mono fun r _ how fault raised => ?_
  subst raised
  rcases how with inner | ⟨refused, same, unreleased⟩
  · exact .inl (inner.mono fun r _ same => same.symm)
  · cases same
    refine .inr (unreleased.mono fun r left ends => ?_)
    obtain ⟨workspace, rfl, released⟩ := ends
    refine ⟨workspace, rfl, ?_⟩
    obtain ⟨_, _, rfl, faults⟩ := (released.and release_faults).elim
    rcases faults refused rfl with ⟨refusal, rfl, probed⟩ | ⟨rfl, unspelled⟩
    · exact .inl ⟨refusal, rfl, probed⟩
    · exact .inr ⟨rfl, unspelled⟩

end Within

end Workspace
end JavaStubs

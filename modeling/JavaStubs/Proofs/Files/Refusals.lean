import JavaStubs.Proofs.Files.Changes

/-!
The faults of operations on files. An operation on a path ends in a refusal of the operating system, or
in the fault of a name with NUL if there is NUL in the path, and in nothing else.
-/
namespace JavaStubs.Disk

open FileTree (Purpose Found)

/-- A fault that an operation on a path can end in. -/
inductive IsFaultOf (path : Path) : FileFault → Prop where
  | os (refusal : OsFault) : IsFaultOf path (.os refusal)
  | nul (there : Path.hasNul path.text = true) : IsFaultOf path .nulInName

/-- Wherever it is run, an operation ends in no other faults than those of a path. -/
def Concerns {α : Type} (path : Path) (job : FileJob α) : Prop :=
  Yields (fun _ => True) (fun _ => True) (IsFaultOf path) job

variable {path : Path} {location : Location} {α : Type}

theorem IsFaultOf.of_parent {fault : FileFault} (concerns : IsFaultOf path.parent fault) :
    IsFaultOf path fault := by
  cases concerns with
  | os refusal => exact .os refusal
  | nul there => exact .nul (Path.hasNul_of_parent there)

namespace Concerns

theorem pure (value : α) : Concerns path (pure value) := Yields.pure trivial

theorem throw {fault : FileFault} (known : IsFaultOf path fault) :
    Concerns (α := α) path (throw fault) := Yields.throw known

theorem refuse (cause : OsCause) (other : Path) : Concerns (α := α) path (refuse cause other) :=
  throw (.os _)

theorem bind {β : Type} {job : FileJob α} {next : α → FileJob β} (first : Concerns path job)
    (others : ∀ value, Concerns path (next value)) : Concerns path (job >>= next) :=
  Yields.bind first fun value _ => others value

theorem get : Concerns path (get : FileJob Disk) := fun _ _ => ⟨trivial, trivial⟩

theorem modify (change : Disk → Disk) : Concerns path (modify change : FileJob PUnit) :=
  fun _ _ => ⟨trivial, trivial⟩

theorem tryCatch {job : FileJob α} {handle : FileFault → FileJob α} (first : Concerns path job)
    (others : ∀ fault, IsFaultOf path fault → Concerns path (handle fault)) :
    Concerns path (tryCatch job handle) :=
  Yields.tryCatch first others

theorem of_parent {job : FileJob α} (concerns : Concerns path.parent job) : Concerns path job :=
  Yields.mono concerns (fun _ known => known) fun _ => .of_parent

end Concerns

/-! ## Operations -/

theorem concerns_checkName (path : Path) : Concerns path (checkName path) := by
  unfold checkName
  split
  · next there => exact .throw (.nul there)
  · exact .pure ()

theorem concerns_seek (purpose : Purpose) (path : Path) : Concerns path (seek purpose path) := by
  refine .bind (concerns_checkName path) fun _ => .bind .get fun disk => ?_
  split
  · exact .pure _
  · exact .refuse _ path

theorem concerns_probe (path : Path) : Concerns path (probe path) := by
  unfold probe
  split
  · exact .pure none
  · refine .bind .get fun disk => ?_
    split
    · exact .pure _
    · exact .pure none
    · split
      · exact .pure none
      · exact .refuse _ path

theorem concerns_isDirectory (path : Path) : Concerns path (isDirectory path) :=
  .bind (concerns_probe path) fun _ => .pure _

theorem concerns_putNew (entry : Entry) (mode : Nat) : Concerns path (putNew location entry mode) :=
  .bind (.modify _) fun _ => .modify _

theorem concerns_putFile (content : Content) : Concerns path (putFile location content) := by
  refine .bind .get fun disk => ?_
  split
  · exact concerns_putNew _ _
  · exact .pure ()
  · exact .modify _

theorem concerns_checkChange (location : Location) (path : Path) :
    Concerns path (checkChange location path) := by
  refine .bind .get fun disk => ?_
  split
  · exact .refuse _ path
  · exact .pure ()

theorem concerns_openFile (path : Path) : Concerns path (openFile path) := by
  refine .bind (concerns_seek .look path) fun found => ?_
  split
  · exact .refuse _ path
  · refine .bind .get fun disk => ?_
    split
    · exact .refuse _ path
    · exact .pure _
  · exact .pure _
  · exact .refuse _ path
  · exact .refuse _ path

theorem concerns_readBytes (path : Path) : Concerns path (readBytes path) :=
  .bind (.bind (concerns_openFile path) fun _ => .pure _) fun _ => .pure _

theorem concerns_write (path : Path) (content : Content) : Concerns path (write path content) := by
  have opened : Concerns path (openForWriting path) := by
    refine .bind (concerns_seek .write path) fun found => ?_
    split
    · exact .pure _
    · exact .pure _
    · exact .pure _
    · exact .refuse _ path
    · exact .refuse _ path
  exact .bind opened fun _ => .bind (concerns_putFile content) fun _ => .pure _

theorem concerns_makeDirectory (path : Path) : Concerns path (makeDirectory path) := by
  refine .bind (concerns_seek .entry path) fun found => ?_
  split
  · exact .bind (concerns_checkChange _ path) fun _ => concerns_putNew _ _
  · exact .refuse _ path

/-- What a directory that is there already makes of a refusal. -/
private theorem concerns_there (refusal : OsFault) :
    Concerns path (do if ← isDirectory path then pure () else throw (.os refusal)) := by
  refine .bind (concerns_isDirectory path) fun there => ?_
  split
  · exact .pure ()
  · exact .throw (.os refusal)

theorem concerns_ensureDirectory (path : Path) : Concerns path (ensureDirectory path) := by
  refine .tryCatch (concerns_makeDirectory path) fun fault known => ?_
  split
  · exact .throw known
  · exact concerns_there _
  · exact .throw known

theorem concerns_makeDirectories (path : Path) : Concerns path (makeDirectories path) := by
  have each (names : Nat) (path : Path) : Concerns path (makeDirectoriesFrom names path) := by
    induction names generalizing path with
    | zero => exact concerns_ensureDirectory path
    | succ above ih =>
      refine .tryCatch (concerns_makeDirectory path) fun fault known => ?_
      split
      · exact .bind (ih path.parent).of_parent fun _ => concerns_ensureDirectory path
      · exact concerns_there _
      · exact .throw known
  exact each _ path

theorem concerns_removeFile (path : Path) : Concerns path (removeFile path) := by
  refine .bind (concerns_checkName path) fun _ => .bind .get fun disk => ?_
  split
  · exact .refuse _ path
  · refine .bind (concerns_seek .entry path) fun found => ?_
    split
    · exact .refuse _ path
    · refine .bind (concerns_checkChange _ path) fun _ => ?_
      split
      · exact .refuse _ path
      · exact .modify _

theorem concerns_removeDirectory (path : Path) : Concerns path (removeDirectory path) := by
  refine .bind (concerns_seek .entry path) fun found => ?_
  split
  · exact .refuse _ path
  · next location =>
    have last : Concerns path (do
        if (← get).tree.children location != [] || path.name == ".." then refuse .notEmpty path
        else erase location) := by
      refine .bind .get fun disk => ?_
      split
      · exact .refuse _ path
      · exact .modify _
    have granted : Concerns path (do
        if path.name != ".." then checkChange location path
        if (← get).tree.children location != [] || path.name == ".." then refuse .notEmpty path
        else erase location) := by
      dsimp only
      split
      · exact .bind (concerns_checkChange location path) fun _ => last
      · exact last
    dsimp only
    split
    · exact .bind (.refuse _ path) fun _ => granted
    · exact granted
  · exact .refuse _ path

end JavaStubs.Disk

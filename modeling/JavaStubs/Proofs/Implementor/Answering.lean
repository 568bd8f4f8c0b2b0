import JavaStubs.Proofs.Implementor.Failing
import JavaStubs.Proofs.Implementor.Journaling

/-!
How asking for a source ends. Whatever the introspector, the settings, the files and the journal are, it
ends in the path of the file, in nothing if the operating system refuses to make a directory or to write the
file, or in invalid input; or else in one of a few faults of which each has a cause of its own.
-/
namespace JavaStubs.Implementor

open Job (FailsRaw)

variable {implementor : Implementor} {type : String} {root : Path} {world : World} {described : Interface}

/-! ## Writing -/

/-- The operating system refuses to make a directory, or to write a file. -/
inductive IsBlocked : Fault → Prop where
  | directory (directory : Path) (refusal : OsFault) : IsBlocked (.stage (.noDirectory directory refusal))
  | file (refusal : OsFault) : IsBlocked (.file (.os refusal))

/-- What an invocation gives up quietly for is what is blocked. -/
theorem quietly?_isSome_iff {fault : Fault} : (quietly? fault).isSome = true ↔ IsBlocked fault := by
  constructor
  · intro quiet
    unfold quietly? at quiet
    split at quiet
    · exact .file _
    · exact .directory _ _
    · cases quiet
  · intro blocked
    cases blocked <;> rfl

/-- Writing a source file is blocked if it fails, unless there is NUL in the path of the file. -/
theorem writeSource_faults (settings : Settings) (described : Interface) (root : Path) (world : World) :
    Ends (writeSource settings described root) world fun r _ =>
      IsOutcome (· = destination settings described root)
        (fun fault => IsBlocked fault ∨ fault = .file .nulInName ∧
          Path.hasNul (destination settings described root).text = true) r := by
  have raw : FailsRaw (Path.hasNul (destination settings described root).text = true)
      (· = destination settings described root) (writeSource settings described root) := writeSource_raw id
  have only := (writeSource_failsOnly settings described root).ends world
  refine ((raw world trivial).and only).mono fun r after ends => ?_
  obtain ⟨⟨-, outcome⟩, only⟩ := ends
  cases r with
  | ok path => exact outcome
  | error fault =>
    rcases outcome with ⟨refusal, rfl⟩ | known
    · exact .inl (.file refusal)
    · cases known with
      | stage failure =>
        obtain ⟨directory, refusal, rfl⟩ := only failure rfl
        exact .inl (.directory directory refusal)
      | nul there => exact .inr ⟨rfl, there⟩

/-! ## Invocations -/

/-- A type is described, and writing its source ends in a result. -/
def Sources (implementor : Implementor) (type : String) (root : Path) (world : World)
    (described : Interface) (r : Except Fault Path) : Prop :=
  Ends (implementor.silent.describe "source" type) world fun answer ready => answer = .ok described ∧
    Ends (writeSource implementor.settings described root) ready fun written _ => written = r

/-- What asking for a source can end in besides a path, nothing and invalid input. -/
inductive Escapes (implementor : Implementor) (type : String) (root : Path) (world : World) :
    Fault → Prop where
  /-- The introspector raises a fault. -/
  | introspection {fault : Fault}
      (raised : Ends (implementor.introspector type) world fun r _ => r = .error fault) :
      Escapes implementor type root world fault
  /-- There is NUL in the path of the source file. -/
  | nul {described : Interface}
      (sources : implementor.Sources type root world described (.error (.file .nulInName)))
      (there : Path.hasNul (destination implementor.settings described root).text = true) :
      Escapes implementor type root world (.file .nulInName)
  /-- There is a journal, and an event has to name a type. -/
  | namelessType (kept : implementor.journal ≠ none) (nameless : type = "") :
      Escapes implementor type root world (.event (.lacks ["interface"]))
  /-- There is a journal, and the file that the event goes to cannot be written. -/
  | journal {journal : Journal} {fault : FileFault} (kept : implementor.journal = some journal)
      (refused : Ends (implementor.silent.generateSource type root) world fun _ after =>
        ∃ event, Ends (journal.append event) after fun r _ => r = .error (.file fault)) :
      Escapes implementor type root world (.file fault)

/-- How asking for a source ends: with the path of the file that was written, without one where writing it
is blocked, in invalid input, or in a fault that escapes. -/
inductive IsReply (implementor : Implementor) (type : String) (root : Path) (world : World) :
    Except Fault (Option Path) → Prop where
  | path {described : Interface} (sources : implementor.Sources type root world described
      (.ok (destination implementor.settings described root))) :
      IsReply implementor type root world (.ok (some (destination implementor.settings described root)))
  | nothing {described : Interface} {fault : Fault}
      (sources : implementor.Sources type root world described (.error fault))
      (blocked : IsBlocked fault) : IsReply implementor type root world (.ok none)
  | invalidInput {cause : InputCause} (refused : Ends
      (Introspection.implementable implementor.introspector type) world fun r _ =>
        r = .error (.stage (.invalidInput cause))) :
      IsReply implementor type root world (.error (.stage (.invalidInput cause)))
  | escape {fault : Fault} (escapes : implementor.Escapes type root world fault) :
      IsReply implementor type root world (.error fault)

theorem silent_replies (implementor : Implementor) (type : String) (root : Path) (world : World) :
    Ends (implementor.silent.generateSource type root) world fun r _ =>
      implementor.IsReply type root world r := by
  have refusals := implementable_refusals implementor.introspector type world
  obtain ⟨r, ready, run⟩ :=
    Ends.exists_run (Introspection.implementable implementor.introspector type) world
  rw [Ends.of_run run] at refusals
  have described_run :
      (Introspection.implementable implementor.silent.introspector type).run world = (r, ready) := run
  unfold generateSource
  rw [Ends.bind_iff, describe, Ends.tryCatch_iff, Ends.of_run described_run]
  cases r with
  | error fault =>
    have refused {cause : InputCause} (same : fault = .stage (.invalidInput cause)) :
        implementor.IsReply type root world (.error fault) := by
      subst same
      exact .invalidInput ((Ends.of_run run).mpr rfl)
    rw [caught_error]
    split
    · exact refused rfl
    · rcases refusals fault rfl with ⟨cause, same⟩ | raised
      · exact refused same
      · exact .escape (.introspection raised)
  | ok described =>
    have sources {r : Except Fault Path}
        (wrote : Ends (writeSource implementor.settings described root) ready fun written _ => written = r) :
        implementor.Sources type root world described r := by
      unfold Sources
      rw [describe, Ends.tryCatch_iff, Ends.of_run described_run]
      exact ⟨rfl, wrote⟩
    obtain ⟨r, after, wrote⟩ :=
      Ends.exists_run (writeSource implementor.settings described root) ready
    have faults := writeSource_faults implementor.settings described root ready
    rw [Ends.of_run wrote] at faults
    replace sources := sources ((Ends.of_run wrote).mpr rfl)
    have wrote_silent : (writeSource implementor.silent.settings described root).run ready = (r, after) := wrote
    rw [caught_ok, onward_ok, Ends.bind_iff, Ends.attempt_iff, Ends.of_run wrote_silent, onward_ok]
    cases r with
    | ok path =>
      obtain rfl := faults
      exact .path sources
    | error fault =>
      dsimp only
      cases quiet : quietly? fault with
      | some report => exact .nothing sources (quietly?_isSome_iff.mp (by rw [quiet, Option.isSome_some]))
      | none =>
        rcases faults with blocked | ⟨rfl, there⟩
        · rw [← quietly?_isSome_iff, quiet] at blocked
          cases blocked
        · exact .escape (.nul sources there)

/-- However a source is asked for, the reply is the path of the file, nothing where writing it is blocked,
invalid input, or a fault with one of the causes of those that escape. -/
theorem generateSource_replies (implementor : Implementor) (type : String) (root : Path) (world : World) :
    Ends (implementor.generateSource type root) world fun r _ =>
      implementor.IsReply type root world r := by
  obtain ⟨r, after, run⟩ := Ends.exists_run (implementor.silent.generateSource type root) world
  have replies := silent_replies implementor type root world
  rw [Ends.of_run run] at replies
  refine generateSource_concludes ((Ends.of_run run).mpr ⟨fun outcome details closing => ?_, ?_⟩)
  · refine (note_faults (by decide) closing).mono fun noted later faults => ?_
    cases noted with
    | ok _ => exact replies
    | error fault =>
      rcases faults fault rfl with ⟨kept, nameless, rfl⟩ | ⟨journal, refused, kept, rfl, added⟩
      · exact .escape (.namelessType kept nameless)
      · exact .escape (.journal kept ((Ends.of_run run).mpr added))
  · exact fun _ _ _ => replies

/-- An implementor with a journal whose directory is a file. -/
def misfiling : Implementor := { rejecting with journal := some ⟨.ofText "full", 100⟩ }

/-- The refusal of the operating system that a job ends in. -/
def refusal? {α : Type} : Except Fault α → Option OsFault
  | .error (.file (.os refusal)) => some refusal
  | _ => none

theorem eq_of_refusal? {α : Type} {r : Except Fault α} {refusal : OsFault}
    (refused : refusal? r = some refusal) : r = .error (.file (.os refusal)) := by
  unfold refusal? at refused
  split at refused
  · rw [Option.some.inj refused]
  · cases refused

/-- The source is written, and the note of that ends in the refusal of the operating system, which is neither
a reply without a file nor invalid input. -/
theorem misfiling_escapes :
    misfiling.Sources "geo.Shape" (.ofText "src") cabinet shape (.ok (.ofText "src/geo/ShapeImpl.java")) ∧
    Ends (misfiling.generateSource "geo.Shape" (.ofText "src")) cabinet fun r _ =>
      r = .error (.file (.os ⟨.notDirectory, some "full/20240102"⟩)) ∧
        ¬ ((∃ answer, r = .ok answer) ∨ ∃ cause, r = .error (.stage (.invalidInput cause))) := by
  have wrote : ((writeSource misfiling.settings shape (.ofText "src")).run cabinet).1.toOption =
      some (.ofText "src/geo/ShapeImpl.java") := by decide +kernel
  have sources : misfiling.Sources "geo.Shape" (.ofText "src") cabinet shape
      (.ok (.ofText "src/geo/ShapeImpl.java")) := ⟨rfl, eq_ok_of_toOption wrote⟩
  have refused : refusal? ((misfiling.generateSource "geo.Shape" (.ofText "src")).run cabinet).1 =
      some ⟨.notDirectory, some "full/20240102"⟩ := by decide +kernel
  have escapes : Ends (misfiling.generateSource "geo.Shape" (.ofText "src")) cabinet fun r _ =>
      r = .error (.file (.os ⟨.notDirectory, some "full/20240102"⟩)) := eq_of_refusal? refused
  refine ⟨sources, escapes.mono fun r _ same => ⟨same, ?_⟩⟩
  subst same
  rintro (⟨answer, same⟩ | ⟨cause, same⟩)
  · cases same
  · cases same

end JavaStubs.Implementor

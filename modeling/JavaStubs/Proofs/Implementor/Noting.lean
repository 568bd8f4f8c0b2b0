import JavaStubs.Implementor
import JavaStubs.Proofs.Jobs

/-!
The note of an invocation. With a journal an implementor does what it does without one, and then records
how that ended; what ends in a fault that is not the failure of a stage is not recorded.
-/
namespace JavaStubs.Implementor

/-- An implementor without its journal. -/
def silent (implementor : Implementor) : Implementor := { implementor with journal := none }

/-- An invocation: for the source of the implementation of a type below a root, or for an archive with the
compiled class. -/
inductive Call where
  | source (type : String) (root : Path)
  | archive (type : String) (file : Path)

namespace Call

/-- The name of the operation. -/
def operation : Call → String
  | .source .. => "source"
  | .archive .. => "archive"

/-- The name of the type. -/
def type : Call → String
  | .source type _ => type
  | .archive type _ => type

/-- The invocation of an implementor. -/
def run (implementor : Implementor) : Call → Job (Option Path)
  | .source type root => implementor.generateSource type root
  | .archive type file => some <$> implementor.generateArchive type file

theorem operation_mem (call : Call) : call.operation ∈ Event.operations := by
  cases call <;> simp [operation, Event.operations]

end Call

variable {implementor : Implementor} {world : World} {operation type : String}

/-! ## Notes -/

/-- The fields of a note. -/
def noteFields (operation type outcome : String) (details : List (String × String)) : Fields :=
  (([("operation", operation), ("interface", type), ("outcome", outcome)] ++ details).map
    fun (name, text) => (name, .text text) : List (String × Value))

/-- What a note says of a result: the outcome, and the path of the file, why there is none, or the kind of
a failure and its cause. -/
inductive IsClosing : Except Fault (Option Path) → String → List (String × String) → Prop where
  | ok (path : Path) : IsClosing (.ok (some path)) Event.outcomeOk [("artifact", path.text)]
  | softFailure (report : String) : IsClosing (.ok none) Event.outcomeSoftFailure [("message", report)]
  | failed (failure : StageFault) : IsClosing (.error (.stage failure)) Event.outcomeFailed
      [("kind", failure.kind.name), ("message", failure.cause)]

variable {r : Except Fault (Option Path)} {outcome : String} {details : List (String × String)}

/-- A note is an event, unless the type has no name. -/
theorem check_note (known : operation ∈ Event.operations) (closing : IsClosing r outcome details) :
    Event.check (.table (noteFields operation type outcome details)) =
      if type = "" then .error (.lacks ["interface"])
      else .ok (noteFields operation type outcome details) := by
  have literal : operation = "source" ∨ operation = "archive" := by simpa [Event.operations] using known
  by_cases nameless : type = ""
  · subst nameless
    rcases literal with rfl | rfl <;> cases closing <;> rfl
  · have some_type : type.isEmpty = false := by simpa using nameless
    have vacant : Event.isVacant (noteFields operation type outcome details) "interface" =
        type.isEmpty := rfl
    rw [if_neg nameless]
    unfold Event.check
    simp only [Event.requiredFields, List.filter, vacant, some_type]
    rcases literal with rfl | rfl
    all_goals
      cases closing with
      | ok path => rfl
      | softFailure report => rfl
      | failed failure => cases failure <;> rfl

theorem note_eq {journal : Journal} (kept : implementor.journal = some journal) :
    implementor.note operation type outcome details =
      journal.append (.table (noteFields operation type outcome details)) >>= fun _ => pure () := by
  unfold note
  rw [kept]
  rfl

/-- What comes of a result when something is noted first. -/
theorem Ends.noted {α : Type} {note : Job Unit} {r : Except Fault α} {post : Except Fault α → World → Prop}
    (noted : Ends note world fun noted later => post (noted.bind fun _ => r) later) :
    Ends (note >>= fun _ => Job.ofExcept r) world post := by
  rw [Ends.bind_iff]
  refine noted.mono fun noted later holds => ?_
  cases noted with
  | ok _ =>
    rw [onward_ok, Ends.ofExcept_iff]
    exact holds
  | error fault => exact holds

/-! ## Invocations -/

/-- What is done with a path that is made absolute first. -/
theorem absolute_iff {α : Type} (path : Path) (job : Path → Job α) (post : Except Fault α → World → Prop) :
    Ends (Workspace.absolute path >>= job) world post ↔
      Ends (job (Path.absoluteFrom world.disk.here.path path)) world post := by
  unfold Workspace.absolute
  rw [Ends.bind_iff, Ends.bind_iff, Ends.get_iff, onward_ok, Ends.pure_iff, onward_ok]

/-- A fault that an invocation ends in without a note: one that is no failure of a stage, or a failure that
the introspector ends in and that is not about its input. -/
inductive IsUnnoted (introspector : Introspector) (type : String) (world : World) : Fault → Prop where
  | stray {fault : Fault} (other : ∀ failure, fault ≠ .stage failure) :
    IsUnnoted introspector type world fault
  | introspection {failure : StageFault} (other : ∀ cause, failure ≠ .invalidInput cause)
    (raised : Ends (introspector type) world fun r _ => r = .error (.stage failure)) :
    IsUnnoted introspector type world (.stage failure)

/-- What an invocation ends in when it ends in a result without a journal: if it is noted, the note is taken
first, and the result is that of taking it if this fails. -/
structure Concludes {α : Type} (implementor : Implementor) (operation type : String) (world : World)
    (file : α → Option Path) (post : Except Fault α → World → Prop) (r : Except Fault α) (after : World) :
    Prop where
  noted : ∀ outcome details, IsClosing (r.map file) outcome details →
    Ends (implementor.note operation type outcome details) after fun noted later =>
      post (noted.bind fun _ => r) later
  unnoted : ∀ fault, r = .error fault → IsUnnoted implementor.introspector type world fault → post r after

theorem implementable_refusals (introspector : Introspector) (type : String) (world : World) :
    Ends (Introspection.implementable introspector type) world fun r _ => ∀ fault, r = .error fault →
      (∃ cause, fault = .stage (.invalidInput cause)) ∨
        Ends (introspector type) world fun r _ => r = .error fault := by
  obtain ⟨r, after, run⟩ := Ends.exists_run (introspector type) world
  unfold Introspection.implementable
  rw [Ends.bind_iff, Ends.of_run run]
  cases r with
  | error fault =>
    intro raised same
    cases same
    exact .inr ((Ends.of_run run).mpr rfl)
  | ok described =>
    rw [onward_ok, Ends.ofExcept_iff]
    intro fault refused
    unfold Introspection.requireImplementable at refused
    split at refused
    · cases refused
      exact .inl ⟨_, rfl⟩
    · split at refused
      · cases refused
        exact .inl ⟨_, rfl⟩
      · cases refused

/-- A description that is refused is noted; what follows on one that is not is up to the rest. -/
theorem describe_concludes {α : Type} {file : α → Option Path} {next last : Interface → Job α}
    {post : Except Fault α → World → Prop}
    (ends : Ends (implementor.silent.describe operation type >>= next) world
      (implementor.Concludes operation type world file post))
    (rest : ∀ described ready,
      Ends (next described) ready (implementor.Concludes operation type world file post) →
        Ends (last described) ready post) :
    Ends (implementor.describe operation type >>= last) world post := by
  have refusals := implementable_refusals implementor.introspector type world
  obtain ⟨r, ready, run⟩ :=
    Ends.exists_run (Introspection.implementable implementor.introspector type) world
  rw [Ends.of_run run] at refusals
  have silent_run :
      (Introspection.implementable implementor.silent.introspector type).run world = (r, ready) := run
  unfold describe at ends ⊢
  rw [Ends.bind_iff, Ends.tryCatch_iff, Ends.of_run run]
  rw [Ends.bind_iff, Ends.tryCatch_iff, Ends.of_run silent_run] at ends
  cases r with
  | ok described => exact rest described ready ends
  | error fault =>
    -- without a journal the fault passes, and there is nothing to do but to note it
    have passed : implementor.Concludes operation type world file post (.error fault) ready := by
      rw [caught_error] at ends
      split at ends <;> exact ends
    rw [caught_error]
    split
    · refine Ends.noted (r := .error _) ((passed.noted _ _ (.failed _)).mono fun noted later holds => ?_)
      cases noted with
      | ok _ => exact holds
      | error fault => exact holds
    · next other =>
      refine passed.unnoted fault rfl ?_
      rcases refusals fault rfl with ⟨cause, rfl⟩ | raised
      · exact absurd rfl (other cause)
      · by_cases staged : ∃ failure, fault = .stage failure
        · obtain ⟨failure, rfl⟩ := staged
          exact .introspection (fun cause same => other cause (same ▸ rfl)) raised
        · exact .stray fun failure same => staged ⟨failure, same⟩

/-- A directory could not be made. -/
def IsNoDirectory (failure : StageFault) : Prop :=
  ∃ directory refusal, failure = .noDirectory directory refusal

theorem writeSource_failsOnly (settings : Settings) (described : Interface) (root : Path) :
    Job.FailsOnly IsNoDirectory (writeSource settings described root) := by
  have onDisk {α : Type} (job : FileJob α) : Job.FailsOnly IsNoDirectory (Job.onDisk job) := .onDisk job
  have resolved : Job.FailsOnly IsNoDirectory (resolveDestination settings described root) := by
    refine Yields.bind (Yields.tryCatch (onDisk _) fun fault only => ?_) fun _ _ => Yields.pure trivial
    split
    · exact Yields.throw fun failure same => ⟨_, _, (Fault.stage.inj same).symm⟩
    · exact Yields.throw only
  refine Yields.bind resolved fun file _ => Yields.bind (onDisk _) fun _ _ => ?_
  exact Yields.bind (Yields.record _ _ _) fun _ _ => Yields.pure trivial

theorem generateSource_concludes {root : Path} {post : Except Fault (Option Path) → World → Prop}
    (ends : Ends (implementor.silent.generateSource type root) world
      (implementor.Concludes "source" type world id post)) :
    Ends (implementor.generateSource type root) world post := by
  refine describe_concludes ends fun described ready ends => ?_
  rw [Ends.bind_iff, Ends.attempt_iff] at ends ⊢
  have fails := (writeSource_failsOnly implementor.settings described root).ends ready
  refine (ends.and fails).mono fun r after ends => ?_
  obtain ⟨ends, fails⟩ := ends
  cases r with
  | ok path => exact Ends.noted (r := .ok (some path)) (ends.noted _ _ (.ok _))
  | error fault =>
    rw [onward_ok] at ends ⊢
    dsimp only at ends ⊢
    cases quiet : quietly? fault with
    | some report =>
      rw [quiet] at ends
      dsimp only at ends ⊢
      rw [Ends.bind_iff, Ends.record_iff, onward_ok] at ends ⊢
      exact Ends.noted (r := .ok none) (ends.noted _ _ (.softFailure _))
    | none =>
      rw [quiet] at ends
      refine ends.unnoted fault rfl (.stray fun failure same => ?_)
      subst same
      obtain ⟨directory, refusal, rfl⟩ := fails failure rfl
      cases quiet

theorem generateArchive_concludes {archive : Path} {post : Except Fault Path → World → Prop}
    (ends : Ends (implementor.silent.generateArchive type archive) world
      (implementor.Concludes "archive" type world some post)) :
    Ends (implementor.generateArchive type archive) world post := by
  refine describe_concludes ends fun described ready ends => ?_
  rw [absolute_iff, Ends.bind_iff, Ends.attempt_iff] at ends ⊢
  refine ends.mono fun r built ends => ?_
  rw [onward_ok] at ends ⊢
  split at ends
  · exact Ends.noted (r := .ok _) (ends.noted _ _ (.ok _))
  · exact Ends.noted (r := .error _) (ends.noted _ _ (.failed _))
  · next fault other => exact ends.unnoted fault rfl (.stray other)

/-- With a journal, an invocation ends as it does without one once that has been noted. -/
theorem Call.run_concludes (call : Call) {post : Except Fault (Option Path) → World → Prop}
    (ends : Ends (call.run implementor.silent) world
      (implementor.Concludes call.operation call.type world id post)) :
    Ends (call.run implementor) world post := by
  cases call with
  | source type root => exact generateSource_concludes ends
  | archive type file =>
    change Ends (some <$> implementor.generateArchive type file) world post
    change Ends (some <$> implementor.silent.generateArchive type file) world _ at ends
    rw [Ends.map_iff] at ends ⊢
    refine generateArchive_concludes (ends.mono fun r after ends => ⟨fun outcome details closing => ?_, ?_⟩)
    · refine (ends.noted outcome details (by cases r <;> exact closing)).mono fun noted later holds => ?_
      cases noted <;> exact holds
    · rintro fault rfl unnoted
      exact ends.unnoted fault rfl unnoted

end JavaStubs.Implementor

import JavaStubs.Introspection.Basic
import JavaStubs.Introspection.Disassembler
import JavaStubs.Proofs.Jobs

/-!
How introspectors fail. The only failure of a stage that a catalog or a disassembler ends in is that it
refuses its input.
-/
namespace JavaStubs

namespace Introspection

/-- The only failure of a stage that a job ends in is that the input is refused. -/
def Refuses {α : Type} (job : Job α) : Prop :=
  Job.FailsOnly (fun failure => ∃ cause, failure = .invalidInput cause) job

/-- The only failure of a stage that an introspector ends in is that it refuses its input. -/
def RefusesInput (introspector : Introspector) : Prop := ∀ name, Refuses (introspector name)

theorem isOnly_input (cause : InputCause) :
    (Fault.input cause).IsOnly fun failure => ∃ cause, failure = .invalidInput cause :=
  fun _ same => ⟨cause, (Fault.stage.inj same).symm⟩

end Introspection

open Introspection (Refuses RefusesInput isOnly_input)
open Job (FailsOnly)

theorem Catalog.refusesInput (catalog : Catalog) : RefusesInput catalog.introspector :=
  fun _ => FailsOnly.ofExcept isOnly_input

theorem isOnly_toFault {may : StageFault → Prop} (fault : ToolFault) : fault.toFault.IsOnly may := by
  intro failure same
  cases fault <;> cases same

namespace Disassembler

theorem isOnly_faultOf (refusal : Refusal) :
    (faultOf refusal).IsOnly fun failure => ∃ cause, failure = .invalidInput cause := by
  cases refusal with
  | input cause => exact isOnly_input cause
  | header fault =>
    intro failure same
    cases same
  | noOutcome fault => exact isOnly_toFault fault

theorem refuses_holds (file : String) (entry : Path) : Refuses (holds file entry) := by
  refine Yields.bind (FailsOnly.onDisk _) fun found _ => ?_
  split
  · exact FailsOnly.onDisk _
  · refine Yields.bind (FailsOnly.ofExcept fun fault failure same => ?_) fun _ _ => Yields.pure trivial
    cases same
  · exact Yields.pure trivial

theorem refuses_firstHolding (file : String) (classpath : List Path) :
    Refuses (firstHolding file classpath) := by
  induction classpath with
  | nil => exact Yields.pure trivial
  | cons entry rest ih =>
    refine Yields.bind (refuses_holds file entry) fun held _ => ?_
    split
    · exact Yields.pure trivial
    · exact ih

theorem refuses_located (classpath : List Path) (result : Except Refusal Hierarchy.Found) :
    Refuses (located classpath result) :=
  Yields.bind (FailsOnly.ofExcept isOnly_faultOf) fun _ _ =>
    Yields.bind (refuses_firstHolding _ _) fun _ _ => Yields.pure trivial

theorem refuses_noteRun (arguments : List String) : Refuses (noteRun arguments) :=
  Yields.bind (Yields.record _ _ _) fun _ _ => Yields.modify _

theorem refuses_noteAsked (tool : Disassembler) (names : List String) : Refuses (tool.noteAsked names) := by
  induction names with
  | nil => exact Yields.pure trivial
  | cons name rest ih =>
    refine Yields.bind Yields.get fun world _ => ?_
    split
    · refine Yields.bind (refuses_noteRun _) fun _ _ => ?_
      split
      · exact Yields.bind (Yields.modify _) fun _ _ => ih
      · exact ih
    · exact ih

theorem refusesInput (tool : Disassembler) : RefusesInput tool.introspector := fun _ =>
  Yields.bind Yields.get fun _ _ => Yields.bind (refuses_noteAsked tool _) fun _ _ =>
    refuses_located tool.classpath _

/-! ## Tools whose runs have effects -/

variable {run : List String → Job Outcome}

theorem refuses_answer (runs : ∀ arguments, Refuses (run arguments)) (command : String)
    (classpath : List Path) (name : String) : Refuses (answer command classpath run name) := by
  refine Yields.bind Yields.get fun world _ => ?_
  split
  · exact Yields.pure trivial
  · refine Yields.bind (refuses_noteRun _) fun _ _ => ?_
    refine Yields.bind (Yields.attempt (runs _)) fun outcome ended => ?_
    split
    · exact Yields.pure trivial
    · exact Yields.throw ended
    · dsimp only
      split
      · exact Yields.bind (Yields.modify _) fun _ _ => Yields.pure trivial
      · exact Yields.pure trivial

theorem refuses_answers {ask : String → Job (Except Refusal Listing)} (asks : ∀ name, Refuses (ask name))
    (limit : Nat) (seen pending : List String) : Refuses (answers ask limit seen pending) := by
  fun_induction answers ask limit seen pending with
  | case1 limit seen => exact Yields.pure trivial
  | case2 limit seen name pending known ih => exact ih
  | case3 seen name pending new => exact Yields.pure trivial
  | case4 seen name pending new limit ih =>
    exact Yields.bind (asks name) fun answer _ => Yields.bind (ih answer) fun _ _ => Yields.pure trivial

/-- A tool whose runs end in no failure of a stage refuses its input. -/
theorem explorer_refusesInput (runs : ∀ arguments, Refuses (run arguments)) (command : String)
    (classpath : List Path) : RefusesInput (explorer command classpath run) := by
  have asks := refuses_answer runs command classpath
  refine fun name => Yields.bind (asks name) fun first _ => ?_
  dsimp only
  split
  · exact refuses_located classpath _
  · exact Yields.bind (refuses_answers asks _ _ _) fun _ _ => refuses_located classpath _

end Disassembler

end JavaStubs

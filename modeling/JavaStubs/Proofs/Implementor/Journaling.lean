import JavaStubs.Proofs.Implementor.Archiving
import JavaStubs.Proofs.Implementor.Noting
import JavaStubs.Proofs.Introspection.Refusing
import JavaStubs.Proofs.Journal.Appending

/-!
What invocations leave in a journal. Each of them adds one event, which tells what was asked for and how it
ended.
-/
namespace JavaStubs.Implementor

open Introspection (RefusesInput)

variable {implementor : Implementor} {journal : Journal} {world : World} {call : Call}
  {r : Except Fault (Option Path)} {outcome : String} {details : List (String × String)}

/-! ## One invocation -/

/-- An event tells what an invocation was for and how it ended: with the path of a file, without one, or in
the failure of a stage. -/
structure Tells (event : Fields) (call : Call) (r : Except Fault (Option Path)) : Prop where
  valid : Event.check (.table event) = .ok event
  operation : event.get? "operation" = some (.text call.operation)
  type : event.get? "interface" = some (.text call.type)
  ok_iff : event.get? "outcome" = some (.text "ok") ↔
    ∃ path, r = .ok (some path) ∧ event.get? "artifact" = some (.text path.text)
  softFailure_iff : event.get? "outcome" = some (.text "soft-failure") ↔
    (∃ type root, call = .source type root) ∧ r = .ok none
  failed_iff : event.get? "outcome" = some (.text "failed") ↔ ∃ failure, r = .error (.stage failure) ∧
    event.get? "kind" = some (.text failure.kind.name) ∧ event.get? "message" = some (.text failure.cause)

theorem tells_of_closing (named : call.type ≠ "") (closing : IsClosing r outcome details)
    (source_only : r = .ok none → ∃ type root, call = .source type root) :
    Tells (noteFields call.operation call.type outcome details) call r := by
  have valid : Event.check (.table (noteFields call.operation call.type outcome details)) = _ :=
    check_note call.operation_mem closing
  rw [if_neg named] at valid
  have told (word : String) : Fields.get? (noteFields call.operation call.type outcome details) "outcome" =
      some (.text word) ↔ outcome = word :=
    ⟨fun same => Value.text.inj (Option.some.inj same), fun same => same ▸ rfl⟩
  refine ⟨valid, rfl, rfl, (told _).trans ?_, (told _).trans ?_, (told _).trans ?_⟩
  · cases closing with
    | ok path => exact ⟨fun _ => ⟨path, rfl, rfl⟩, fun _ => rfl⟩
    | softFailure report => exact ⟨fun same => absurd same (by decide), nofun⟩
    | failed failure => exact ⟨fun same => absurd same (by decide), nofun⟩
  · cases closing with
    | ok path => exact ⟨fun same => absurd same (by decide), nofun⟩
    | softFailure report => exact ⟨fun _ => ⟨source_only rfl, rfl⟩, fun _ => rfl⟩
    | failed failure => exact ⟨fun same => absurd same (by decide), nofun⟩
  · cases closing with
    | ok path => exact ⟨fun same => absurd same (by decide), nofun⟩
    | softFailure report => exact ⟨fun same => absurd same (by decide), nofun⟩
    | failed failure => exact ⟨fun _ => ⟨failure, rfl, rfl, rfl⟩, fun _ => rfl⟩

/-- Whether a result is one that callers expect: a fault only if it is the failure of a stage. -/
def isExpected : Except Fault (Option Path) → Bool
  | .ok _ => true
  | .error (.stage _) => true
  | .error _ => false

theorem exists_stage_of_isExpected {fault : Fault} (expected : isExpected (.error fault) = true) :
    ∃ failure, fault = .stage failure := by
  unfold isExpected at expected
  split at expected
  · next same => cases same
  · next failure same => exact ⟨failure, Except.error.inj same⟩
  · cases expected

/-- An invocation that adds one event to a journal: without the journal it ends in a result, and where that
has been reached an event that tells of it is added. -/
def Journals (implementor : Implementor) (journal : Journal) (call : Call) (world : World)
    (r : Except Fault (Option Path)) (after : World) : Prop :=
  ∃ before event path, (call.run implementor.silent).run world = (r, before) ∧ Tells event call r ∧
    (journal.append (.table event)).run before = (.ok path, after)

theorem run_none (implementor : Implementor) (call : Call) (world : World) :
    Ends (call.run implementor) world fun r _ => r = .ok none → ∃ type root, call = .source type root := by
  cases call with
  | source type root => exact fun _ => ⟨type, root, rfl⟩
  | archive type file =>
    change Ends (some <$> implementor.generateArchive type file) world _
    rw [Ends.map_iff]
    generalize implementor.generateArchive type file = job
    have ends : Ends job world fun _ _ => True := trivial
    refine ends.mono fun r _ _ none_made => ?_
    cases r <;> cases none_made

/-- An invocation for a type with a name adds one event, if it ends in what callers expect. -/
theorem run_journals (kept : implementor.journal = some journal)
    (refuses : RefusesInput implementor.introspector) (named : call.type ≠ "") (world : World) :
    Ends (call.run implementor) world fun r after =>
      isExpected r = true → implementor.Journals journal call world r after := by
  obtain ⟨r, before, run⟩ := Ends.exists_run (call.run implementor.silent) world
  have source_only := run_none implementor.silent call world
  rw [Ends.of_run run] at source_only
  refine Call.run_concludes call ((Ends.of_run run).mpr ⟨fun outcome details closing => ?_, ?_⟩)
  · have closes : IsClosing r outcome details := by
      cases r <;> exact closing
    rw [note_eq kept, Ends.bind_iff]
    obtain ⟨appended, after, add⟩ := Ends.exists_run
      (journal.append (.table (noteFields call.operation call.type outcome details))) before
    have unstaged :=
      journal.append_unstaged (.table (noteFields call.operation call.type outcome details)) before
    rw [Ends.of_run add] at unstaged ⊢
    cases appended with
    | ok path => exact fun _ => ⟨before, _, path, run, tells_of_closing named closes source_only, add⟩
    | error fault =>
      intro expected
      obtain ⟨failure, rfl⟩ := exists_stage_of_isExpected expected
      exact absurd rfl (unstaged failure)
  · rintro fault rfl unnoted expected
    obtain ⟨failure, rfl⟩ := exists_stage_of_isExpected expected
    cases unnoted with
    | stray other => exact absurd rfl (other failure)
    | introspection other raised =>
      obtain ⟨_, _, rfl, only⟩ := (raised.and ((refuses call.type).ends world)).elim
      obtain ⟨cause, rfl⟩ := only _ rfl
      exact absurd rfl (other cause)

/-! ## Invocations one after the other -/

/-- An invocation, and what happens in the world between the one before and it. -/
structure Request where
  meanwhile : World → World
  call : Call

/-- The results of requests that an implementor serves one after the other, and the world then. -/
def serve (implementor : Implementor) : List Request → World → List (Except Fault (Option Path)) × World
  | [], world => ([], world)
  | request :: rest, world =>
    let (r, after) := (request.call.run implementor).run (request.meanwhile world)
    let (results, last) := implementor.serve rest after
    (r :: results, last)

/-- Each of the requests that are served adds one event to a journal. -/
inductive Journaled (implementor : Implementor) (journal : Journal) :
    List Request → World → List (Except Fault (Option Path)) → World → Prop where
  | nil {world : World} : Journaled implementor journal [] world [] world
  | cons {request : Request} {rest : List Request} {world after last : World}
      {r : Except Fault (Option Path)} {results : List (Except Fault (Option Path))}
      (journals : implementor.Journals journal request.call (request.meanwhile world) r after)
      (others : Journaled implementor journal rest after results last) :
      Journaled implementor journal (request :: rest) world (r :: results) last

/-- Whatever is asked for, as long as types have names and results are what callers expect, each invocation
adds one event to the journal, a valid one that tells what was asked for and how it ended. -/
theorem serve_journaled (kept : implementor.journal = some journal)
    (refuses : RefusesInput implementor.introspector) (requests : List Request)
    (named : ∀ request ∈ requests, request.call.type ≠ "") (world : World)
    (expected : ∀ r ∈ (implementor.serve requests world).1, isExpected r = true) :
    implementor.Journaled journal requests world (implementor.serve requests world).1
      (implementor.serve requests world).2 := by
  induction requests generalizing world with
  | nil => exact .nil
  | cons request rest ih =>
    have journals := run_journals kept refuses (named request List.mem_cons_self) (request.meanwhile world)
    refine .cons (journals (expected _ List.mem_cons_self)) (ih ?_ _ ?_)
    · exact fun other member => named other (List.mem_cons_of_mem request member)
    · exact fun r member => expected r (List.mem_cons_of_mem _ member)

/-- An implementor that knows one interface, with a journal and a compiler that rejects every source. -/
def rejecting : Implementor :=
  { shapeMaker (.file (.ofText "code")) with
    compiler := fun _ _ => return ⟨1, "", "not today"⟩
    journal := some ⟨.ofText "log", 100⟩ }

/-- A root directory with a file. -/
def cabinet : World :=
  .start ⟨FileTree.empty.put ["full"] (.file (.ofText "")), [], [], [], 0o022⟩ []
    (.ofText "2024-01-02T03:04:05+00:00") none

/-- Invocations day after day: a source, one that cannot be written, an archive, and one of an unknown
type. -/
def chores : List Request :=
  let onDay (text : String) (world : World) : World := { world with now := .ofText text }
  [⟨onDay "2024-01-02", .source "geo.Shape" (.ofText "src")⟩,
    ⟨onDay "2024-01-03", .source "geo.Shape" (.ofText "full")⟩,
    ⟨onDay "2024-01-04", .archive "geo.Shape" (.ofText "j.jar")⟩,
    ⟨onDay "2024-01-05", .archive "geo.Point" (.ofText "j.jar")⟩]

theorem serve_journaled_chores :
    RefusesInput rejecting.introspector ∧ (∀ request ∈ chores, request.call.type ≠ "") ∧
    (∀ r ∈ (rejecting.serve chores cabinet).1, isExpected r = true) ∧
    rejecting.Journaled ⟨.ofText "log", 100⟩ chores cabinet (rejecting.serve chores cabinet).1
      (rejecting.serve chores cabinet).2 := by
  have refuses : RefusesInput rejecting.introspector := Catalog.refusesInput _
  have named : ∀ request ∈ chores, request.call.type ≠ "" := by decide
  have expected : ∀ r ∈ (rejecting.serve chores cabinet).1, isExpected r = true := by decide +kernel
  exact ⟨refuses, named, expected, serve_journaled rfl refuses chores named cabinet expected⟩

end JavaStubs.Implementor

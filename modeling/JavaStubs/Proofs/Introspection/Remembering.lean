import JavaStubs.Proofs.Introspection.Description

/-!
Descriptions one after another by one disassembler. The listings that it keeps are those that its
tool gives, whether a call named a type or met it on its way, and whether or not the call went well.
So no answer depends on what was asked before, and no listing is asked for twice.
-/
namespace JavaStubs

/-! ## Descriptions from equal listings -/

namespace Hierarchy

/-- A walk depends on what the names that it asks for are answered with, and on nothing else. -/
theorem walk_of_asked {a b : Listings} {seen pending : List String}
    (same : ∀ name ∈ (walk b seen pending).1, a.get name = b.get name) :
    walk a seen pending = walk b seen pending := by
  fun_induction walk b seen pending with
  | case1 seen => rw [walk]
  | case2 seen name pending old ih => rw [walk.eq_2 a, dif_pos old, ih same]
  | case3 seen name pending new refusal refused =>
    have here := (same name List.mem_cons_self).trans refused
    rw [walk.eq_2 a, dif_neg new]
    split <;> simp_all
  | case4 seen name pending new listing known cause refused =>
    have here := (same name List.mem_cons_self).trans known
    rw [walk.eq_2 a, dif_neg new]
    split <;> simp_all
  | case5 seen name pending new listing known methods read asked others walked ih =>
    have here := (same name List.mem_cons_self).trans known
    rw [walked] at ih
    have rest := ih fun other member => same other (List.mem_cons_of_mem name member)
    rw [walk.eq_2 a, dif_neg new]
    split <;> simp_all

theorem describe_of_asked {a b : Listings} {name : String}
    (same : ∀ other ∈ (describe b name).1, a.get other = b.get other) : describe a name = describe b name := by
  have here : a.get name = b.get name := by
    refine same name ?_
    unfold describe
    split <;> exact List.mem_cons_self
  unfold describe at same ⊢
  rw [here]
  split
  · rfl
  · next listing known =>
    rw [known] at same
    rw [walk_of_asked fun other member => same other (List.mem_cons_of_mem name member)]

theorem describe_congr {a b : Listings} (same : ∀ name, a.get name = b.get name) (name : String) :
    describe a name = describe b name :=
  describe_of_asked fun other _ => same other

end Hierarchy

namespace Disassembler

open Hierarchy

/-! ## What is kept between calls -/

/-- The run of a disassembler for a type. -/
def runFor (tool : Disassembler) (name : String) : ToolKind × List String :=
  (.disassembler, tool.arguments name)

theorem runFor_injective {tool : Disassembler} {a b : String}
    (same : tool.runFor a = tool.runFor b) : a = b := by
  have arguments : tool.arguments a = tool.arguments b := congrArg Prod.snd same
  exact List.singleton_inj.mp (List.append_cancel_left arguments)

/-- What a disassembler that had kept nothing in `start` has done since: the listings that it keeps
are those of its tool, each after a single run, and any other run was for a name without listing. -/
structure Remembers (tool : Disassembler) (start world : World) : Prop where
  disk : world.disk = start.disk
  faithful : ∀ name listing,
    world.listings.lookup name = some listing → tool.listings.get name = .ok listing
  runs : ∃ runs, world.runs = start.runs ++ runs ∧ ∀ name listing,
    tool.listings.get name = .ok listing →
      runs.count (tool.runFor name) = if (world.listings.lookup name).isSome then 1 else 0

theorem Remembers.start {tool : Disassembler} {world : World} (nothing : world.listings = []) :
    Remembers tool world world where
  disk := rfl
  faithful := by simp [nothing]
  runs := ⟨[], by simp, by simp [nothing]⟩

/-- The listings kept make no difference to what a name is answered with. -/
theorem Remembers.get_known {tool : Disassembler} {start world : World}
    (remembers : Remembers tool start world) (name : String) :
    (tool.known world).get name = tool.listings.get name := by
  unfold known Listings.keeping
  dsimp only
  split
  · next listing kept => exact (remembers.faithful name listing kept).symm
  · rfl

private theorem count_runFor {tool : Disassembler} {name other : String}
    (runs : List (ToolKind × List String)) :
    (runs ++ [tool.runFor name]).count (tool.runFor other) =
      runs.count (tool.runFor other) + if other = name then 1 else 0 := by
  rw [List.count_append, List.count_singleton]
  by_cases same : other = name
  · simp [same]
  · have different : tool.runFor name ≠ tool.runFor other := fun h => same (runFor_injective h).symm
    simp [same, different]

theorem Remembers.ran {tool : Disassembler} {start world : World} {name : String} {listing : Listing}
    (remembers : Remembers tool start world) (new : world.listings.lookup name = none)
    (answer : tool.listings.get name = .ok listing) :
    Remembers tool start (tool.ran world name listing) where
  disk := remembers.disk
  faithful := by
    intro other found kept
    rw [lookup_ran] at kept
    cases before : world.listings.lookup other with
    | some old =>
      rw [before] at kept
      exact remembers.faithful other found (before.trans kept)
    | none =>
      rw [before] at kept
      split at kept
      · next same =>
        subst same
        cases kept
        exact answer
      · cases kept
  runs := by
    obtain ⟨runs, all, counted⟩ := remembers.runs
    refine ⟨runs ++ [tool.runFor name], ?_, fun other found given => ?_⟩
    · rw [← List.append_assoc, ← all]
      rfl
    · rw [count_runFor, counted other found given, lookup_ran]
      by_cases same : other = name
      · simp [same, new]
      · rw [if_neg same, if_neg same, Option.or_none, Nat.add_zero]

/-- The world after the tool was run for a name that it has no listing for. -/
def tried (tool : Disassembler) (world : World) (name : String) : World :=
  { world with
    log := world.log ++ [⟨.debug, source, "running " ++ Text.joined " " (tool.arguments name)⟩]
    runs := world.runs ++ [tool.runFor name] }

theorem noteAsked_refused {tool : Disassembler} {world : World} {name : String}
    {names : List String} {refusal : Refusal} {post : Except Fault Unit → World → Prop}
    (new : world.listings.lookup name = none) (answer : tool.listings.get name = .error refusal) :
    Ends (tool.noteAsked (name :: names)) world post ↔
      Ends (tool.noteAsked names) (tool.tried world name) post := by
  simp [noteAsked, Ends.bind_iff, new, answer, noteRun, Job.noteRun, tried, runFor]

theorem Remembers.tried {tool : Disassembler} {start world : World} {name : String}
    {refusal : Refusal} (remembers : Remembers tool start world)
    (answer : tool.listings.get name = .error refusal) :
    Remembers tool start (tool.tried world name) where
  disk := remembers.disk
  faithful := remembers.faithful
  runs := by
    obtain ⟨runs, all, counted⟩ := remembers.runs
    refine ⟨runs ++ [tool.runFor name], ?_, fun other listing given => ?_⟩
    · rw [← List.append_assoc, ← all]
      rfl
    · have different : other ≠ name := by
        rintro rfl
        rw [answer] at given
        cases given
      rw [count_runFor, counted other listing given, if_neg different]
      rfl

/-- What a description asks for is remembered. -/
theorem noteAsked_remembers {tool : Disassembler} {start world : World}
    (remembers : Remembers tool start world) (names : List String) :
    Ends (tool.noteAsked names) world fun result after =>
      result = .ok () ∧ Remembers tool start after := by
  induction names generalizing world with
  | nil => exact ⟨rfl, remembers⟩
  | cons name names ih =>
    cases kept : world.listings.lookup name with
    | some listing =>
      rw [noteAsked_kept (by simp [kept])]
      exact ih remembers
    | none =>
      cases answer : tool.listings.get name with
      | ok listing =>
        rw [noteAsked_new kept answer]
        exact ih (remembers.ran kept answer)
      | error refusal =>
        rw [noteAsked_refused kept answer]
        exact ih (remembers.tried answer)

/-! ## Calls one after another -/

theorem readsDisk_located (classpath : List Path) (result : Except Refusal Found) :
    ReadsDisk (located classpath result) :=
  .bind (.ofExcept _) fun _ => .bind (readsDisk_locate _ _) fun _ => .pure _

/-- A call leaves what it should remember, and its answer depends on the tool and the disk only. -/
theorem introspector_answer (tool : Disassembler) (name : String) :
    ∃ answer : Disk → Except Fault Interface, ∀ start world, Remembers tool start world →
      Ends (tool.introspector name) world fun result after =>
        result = answer start.disk ∧ Remembers tool start after := by
  obtain ⟨answer, run⟩ := readsDisk_located tool.classpath (describe tool.listings name).2
  refine ⟨answer, fun start world remembers => ?_⟩
  have described : describe (tool.listings.keeping world.listings) name =
      describe tool.listings name := describe_congr remembers.get_known name
  simp only [introspector, Ends.bind_iff, Ends.get_iff, onward_ok, described]
  refine (noteAsked_remembers remembers _).mono ?_
  rintro result after ⟨rfl, remembers⟩
  rw [onward_ok, Ends.of_run (run after), remembers.disk]
  exact ⟨rfl, remembers⟩

/-- Describes types one after another; that one cannot be described does not end the sequence. -/
def describeEach (introspector : Introspector) (names : List String) :
    Job (List (Except Fault Interface)) :=
  names.mapM fun name => Job.attempt (introspector name)

/-- The answer of an introspector by a disassembler that has kept nothing. -/
def freshAnswer (tool : Disassembler) (world : World) (name : String) : Except Fault Interface :=
  ((tool.introspector name).run { world with listings := [] }).1

theorem introspector_remembers {tool : Disassembler} {start world : World}
    (nothing : start.listings = []) (remembers : Remembers tool start world) (name : String) :
    Ends (tool.introspector name) world fun result after =>
      result = tool.freshAnswer start name ∧ Remembers tool start after := by
  obtain ⟨answer, ends⟩ := tool.introspector_answer name
  have fresh : tool.freshAnswer start name = answer start.disk := by
    have same : { start with listings := [] } = start := by rw [← nothing]
    rw [freshAnswer, same]
    exact (ends start start (.start nothing)).1
  rw [fresh]
  exact ends start world remembers

theorem describeEach_remembers {tool : Disassembler} {start world : World}
    (nothing : start.listings = []) (remembers : Remembers tool start world) (names : List String) :
    Ends (describeEach tool.introspector names) world fun result after =>
      result = .ok (names.map (tool.freshAnswer start)) ∧ Remembers tool start after := by
  unfold describeEach
  induction names generalizing world with
  | nil => exact ⟨rfl, remembers⟩
  | cons name names ih =>
    rw [List.mapM_cons, Ends.bind_iff, Ends.attempt_iff]
    refine (introspector_remembers nothing remembers name).mono ?_
    rintro answer middle ⟨rfl, remembers⟩
    rw [onward_ok, Ends.bind_iff]
    refine (ih remembers).mono ?_
    rintro answers after ⟨rfl, remembers⟩
    exact ⟨rfl, remembers⟩

/-- However often and in whatever order types are described by one disassembler that has kept
nothing so far, each answer, a refusal too, is that of one that is asked only once, and the tool is
run at most once for each type that it has a listing for. -/
theorem describeEach_memoizes (tool : Disassembler) (world : World) (nothing : world.listings = [])
    (names : List String) :
    Ends (describeEach tool.introspector names) world fun result after =>
      result = .ok (names.map (tool.freshAnswer world)) ∧
      ∃ runs, after.runs = world.runs ++ runs ∧
        ∀ name listing, tool.listings.get name = .ok listing →
          runs.count (.disassembler, tool.arguments name) ≤ 1 := by
  refine (describeEach_remembers nothing (.start nothing) names).mono ?_
  rintro result after ⟨done, remembers⟩
  obtain ⟨runs, all, counted⟩ := remembers.runs
  refine ⟨done, runs, all, fun name listing given => ?_⟩
  have count := counted name listing given
  unfold runFor at count
  rw [count]
  split <;> decide

theorem describeEach_memoizes_ring :
    untouched.listings = [] ∧
    Ends (describeEach ring.introspector ["L", "no.Type", "R", "L", "no.Type"]) untouched
      fun result after =>
        result = .ok (["L", "no.Type", "R", "L", "no.Type"].map (ring.freshAnswer untouched)) ∧
        ∃ runs, after.runs = untouched.runs ++ runs ∧
          ∀ name listing, ring.listings.get name = .ok listing →
            runs.count (.disassembler, ring.arguments name) ≤ 1 :=
  ⟨rfl, describeEach_memoizes ring untouched rfl _⟩

end Disassembler
end JavaStubs

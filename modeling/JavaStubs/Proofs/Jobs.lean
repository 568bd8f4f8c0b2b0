import JavaStubs.World

/-!
How jobs end. `Ends job s post` says of the result of a job and of the state that it leaves when it
is run from `s` that they are in the relation `post`; there is one rule for each way to build jobs.
`Reads` is for jobs that change nothing.
-/
namespace JavaStubs

variable {ε σ α β : Type}

/-- The result of a job that is run from `s`, and the state that it leaves, are in a relation. -/
def Ends (job : ExceptT ε (StateM σ) α) (s : σ) (post : Except ε α → σ → Prop) : Prop :=
  post (job.run s).1 (job.run s).2

/-- The rest of a job: after a value it goes on, and a fault ends it. -/
def Onward (next : α → ExceptT ε (StateM σ) β) (post : Except ε β → σ → Prop) :
    Except ε α → σ → Prop
  | .ok value, s => Ends (next value) s post
  | .error fault, s => post (.error fault) s

/-- The rest of a job whose faults are caught. -/
def Caught (handle : ε → ExceptT ε (StateM σ) α) (post : Except ε α → σ → Prop) :
    Except ε α → σ → Prop
  | .ok value, s => post (.ok value) s
  | .error fault, s => Ends (handle fault) s post

namespace Ends

variable {job : ExceptT ε (StateM σ) α} {s : σ} {post : Except ε α → σ → Prop}

theorem of_run {r : Except ε α} {s' : σ} (run : job.run s = (r, s')) : Ends job s post ↔ post r s' := by
  rw [Ends, run]

theorem exists_run (job : ExceptT ε (StateM σ) α) (s : σ) : ∃ r s', job.run s = (r, s') :=
  ⟨_, _, rfl⟩

/-- A relation that follows from the one in which a job ends. -/
theorem mono {other : Except ε α → σ → Prop} (ends : Ends job s post)
    (weaker : ∀ r s', post r s' → other r s') : Ends job s other :=
  weaker _ _ ends

/-- A job does end. -/
theorem elim (ends : Ends job s post) : ∃ r s', post r s' := ⟨_, _, ends⟩

/-- What is known of the end of a job, and what is known of it as well. -/
theorem and {other : Except ε α → σ → Prop} (ends : Ends job s post) (also : Ends job s other) :
    Ends job s fun r s' => post r s' ∧ other r s' :=
  ⟨ends, also⟩

@[simp] theorem pure_iff {value : α} : Ends (pure value) s post ↔ post (.ok value) s := Iff.rfl

@[simp] theorem throw_iff {fault : ε} : Ends (throw fault) s post ↔ post (.error fault) s := Iff.rfl

@[simp] theorem get_iff {post : Except ε σ → σ → Prop} : Ends get s post ↔ post (.ok s) s := Iff.rfl

@[simp] theorem set_iff {t : σ} {post : Except ε PUnit → σ → Prop} :
    Ends (set t) s post ↔ post (.ok ⟨⟩) t := Iff.rfl

@[simp] theorem modify_iff {f : σ → σ} {post : Except ε PUnit → σ → Prop} :
    Ends (modify f) s post ↔ post (.ok ⟨⟩) (f s) := Iff.rfl

theorem bind_iff {next : α → ExceptT ε (StateM σ) β} {post : Except ε β → σ → Prop} :
    Ends (job >>= next) s post ↔ Ends job s (Onward next post) := by
  have run : (job >>= next).run s =
      match job.run s with
      | (.ok value, s') => (next value).run s'
      | (.error fault, s') => (.error fault, s') := by
    change (ExceptT.bind job next).run s = _
    simp only [ExceptT.bind, ExceptT.run, ExceptT.mk]
    change (StateT.bind _ _ s : Id _) = _
    simp only [StateT.bind]
    change (match (job s : Except ε α × σ) with | (a, s') => _) = _
    cases (job s : Except ε α × σ) with
    | mk r s' => cases r <;> rfl
  simp only [Ends, run]
  cases job.run s with
  | mk r s' => cases r <;> rfl

theorem map_iff {change : α → β} {post : Except ε β → σ → Prop} :
    Ends (change <$> job) s post ↔ Ends job s fun r s' => post (r.map change) s' := by
  rw [map_eq_pure_bind, bind_iff]
  constructor
  · refine fun ends => ends.mono fun r s' holds => ?_
    cases r <;> exact holds
  · refine fun ends => ends.mono fun r s' holds => ?_
    cases r <;> exact holds

theorem tryCatch_iff {handle : ε → ExceptT ε (StateM σ) α} :
    Ends (tryCatch job handle) s post ↔ Ends job s (Caught handle post) := by
  have run : (tryCatch job handle).run s =
      match job.run s with
      | (.ok value, s') => (.ok value, s')
      | (.error fault, s') => (handle fault).run s' := by
    change (ExceptT.tryCatch job handle).run s = _
    simp only [ExceptT.tryCatch, ExceptT.run, ExceptT.mk]
    change (StateT.bind _ _ s : Id _) = _
    simp only [StateT.bind]
    change (match (job s : Except ε α × σ) with | (a, s') => _) = _
    cases (job s : Except ε α × σ) with
    | mk r s' => cases r <;> rfl
  simp only [Ends, run]
  cases job.run s with
  | mk r s' => cases r <;> rfl

end Ends

@[simp] theorem onward_ok {next : α → ExceptT ε (StateM σ) β} {post : Except ε β → σ → Prop}
    {value : α} {s : σ} : Onward next post (.ok value) s ↔ Ends (next value) s post := Iff.rfl

@[simp] theorem onward_error {next : α → ExceptT ε (StateM σ) β} {post : Except ε β → σ → Prop}
    {fault : ε} {s : σ} : Onward next post (.error fault) s ↔ post (.error fault) s := Iff.rfl

@[simp] theorem caught_ok {handle : ε → ExceptT ε (StateM σ) α} {post : Except ε α → σ → Prop}
    {value : α} {s : σ} : Caught handle post (.ok value) s ↔ post (.ok value) s := Iff.rfl

@[simp] theorem caught_error {handle : ε → ExceptT ε (StateM σ) α} {post : Except ε α → σ → Prop}
    {fault : ε} {s : σ} : Caught handle post (.error fault) s ↔ Ends (handle fault) s post := Iff.rfl

theorem eq_ok_of_toOption {r : Except ε α} {value : α} (done : r.toOption = some value) :
    r = .ok value := by
  cases r with
  | ok other => exact congrArg _ (Option.some.inj done)
  | error fault => cases done

theorem bind_eq_ok {first : Except ε α} {next : α → Except ε β} {result : β}
    (success : (first >>= next) = .ok result) : ∃ value, first = .ok value ∧ next value = .ok result := by
  cases first with
  | error fault => cases success
  | ok value => exact ⟨value, rfl, success⟩

theorem ok_bind {first : Except ε α} {next : α → Except ε β} {a : α} (run : first = .ok a) :
    (first >>= next) = next a := by
  rw [run]
  rfl

theorem mapM_eq_ok {f : α → Except ε β} {g : α → β} {items : List α}
    (each : ∀ item ∈ items, f item = .ok (g item)) : items.mapM f = .ok (items.map g) := by
  induction items with
  | nil => rfl
  | cons item rest ih =>
    rw [List.mapM_cons, each item List.mem_cons_self,
      ih fun other member => each other (List.mem_cons_of_mem item member)]
    rfl

/-! ## Jobs that change nothing -/

/-- A job leaves the state from which it is run. -/
def Reads (job : ExceptT ε (StateM σ) α) : Prop := ∀ s, Ends job s fun _ s' => s' = s

namespace Reads

theorem pure (value : α) : Reads (pure value : ExceptT ε (StateM σ) α) := fun _ => rfl

theorem throw (fault : ε) : Reads (throw fault : ExceptT ε (StateM σ) α) := fun _ => rfl

theorem get : Reads (get : ExceptT ε (StateM σ) σ) := fun _ => rfl

theorem bind {job : ExceptT ε (StateM σ) α} {next : α → ExceptT ε (StateM σ) β} (first : Reads job)
    (others : ∀ value, Reads (next value)) : Reads (job >>= next) := by
  intro s
  rw [Ends.bind_iff]
  refine (first s).mono fun r s' same => ?_
  subst same
  cases r with
  | error fault => rfl
  | ok value => exact others value s'

theorem ite {condition : Prop} [Decidable condition] {job other : ExceptT ε (StateM σ) α}
    (yes : Reads job) (no : Reads other) : Reads (if condition then job else other) := by
  split
  · exact yes
  · exact no

theorem run {job : ExceptT ε (StateM σ) α} (reads : Reads job) (s : σ) :
    ∃ r, job.run s = (r, s) :=
  ⟨(job.run s).1, Prod.ext rfl (reads s)⟩

end Reads

theorem Disk.reads_probe (path : Path) : Reads (Disk.probe path) := by
  unfold Disk.probe
  refine .ite (.pure _) (.bind .get fun disk => ?_)
  split
  · exact .pure _
  · exact .pure _
  · exact .ite (.pure _) (.throw _)

/-! ## Jobs that succeed -/

/-- A job succeeds, and leaves a state of some kind if it is run from one. -/
def Upholds (job : ExceptT ε (StateM σ) α) (inv : σ → Prop) : Prop :=
  ∀ s, inv s → Ends job s fun r s' => (∃ value, r = .ok value) ∧ inv s'

namespace Upholds

variable {inv : σ → Prop}

theorem pure (value : α) : Upholds (pure value : ExceptT ε (StateM σ) α) inv :=
  fun _ holds => ⟨⟨value, rfl⟩, holds⟩

theorem bind {job : ExceptT ε (StateM σ) α} {next : α → ExceptT ε (StateM σ) β}
    (first : Upholds job inv) (others : ∀ value, Upholds (next value) inv) :
    Upholds (job >>= next) inv := by
  intro s holds
  rw [Ends.bind_iff]
  refine (first s holds).mono fun r s' ends => ?_
  obtain ⟨⟨value, rfl⟩, holds⟩ := ends
  exact others value s' holds

theorem mapM {f : α → ExceptT ε (StateM σ) β} {xs : List α} (each : ∀ x ∈ xs, Upholds (f x) inv) :
    Upholds (xs.mapM f) inv := by
  induction xs with
  | nil => exact pure []
  | cons x rest ih =>
    rw [List.mapM_cons]
    refine bind (each x List.mem_cons_self) fun value => ?_
    exact bind (ih fun y member => each y (List.mem_cons_of_mem x member)) fun values => pure _

end Upholds

/-! ## Jobs that fail in known ways -/

/-- A value of some kind, or a fault of some kind. -/
def IsOutcome (good : α → Prop) (may : ε → Prop) : Except ε α → Prop
  | .ok value => good value
  | .error fault => may fault

/-- Run from a state of some kind, a job leaves one of that kind, with a value or a fault of some kind. -/
def Yields (inv : σ → Prop) (good : α → Prop) (may : ε → Prop) (job : ExceptT ε (StateM σ) α) : Prop :=
  ∀ s, inv s → Ends job s fun r s' => inv s' ∧ IsOutcome good may r

namespace Yields

variable {inv : σ → Prop} {good : α → Prop} {may : ε → Prop} {job : ExceptT ε (StateM σ) α}

theorem pure {value : α} (holds : good value) : Yields inv good may (pure value) :=
  fun _ here => ⟨here, holds⟩

theorem throw {fault : ε} (holds : may fault) : Yields inv good may (throw fault) :=
  fun _ here => ⟨here, holds⟩

theorem get : Yields inv inv may get := fun _ here => ⟨here, here⟩

theorem set (other : σ) :
    Yields (fun _ => True) (fun _ => True) may (set other : ExceptT ε (StateM σ) PUnit) :=
  fun _ _ => ⟨trivial, trivial⟩

theorem modify (change : σ → σ) : Yields (fun _ => True) (fun _ => True) may (modify change) :=
  fun _ _ => ⟨trivial, trivial⟩

theorem bind {next : α → ExceptT ε (StateM σ) β} {last : β → Prop} (first : Yields inv good may job)
    (others : ∀ value, good value → Yields inv last may (next value)) :
    Yields inv last may (job >>= next) := by
  intro s here
  rw [Ends.bind_iff]
  refine (first s here).mono fun r s' ends => ?_
  obtain ⟨here, outcome⟩ := ends
  cases r with
  | ok value => exact others value outcome s' here
  | error fault => exact ⟨here, outcome⟩

theorem tryCatch {caught : ε → Prop} {handle : ε → ExceptT ε (StateM σ) α}
    (first : Yields inv good caught job)
    (others : ∀ fault, caught fault → Yields inv good may (handle fault)) :
    Yields inv good may (tryCatch job handle) := by
  intro s here
  rw [Ends.tryCatch_iff]
  refine (first s here).mono fun r s' ends => ?_
  obtain ⟨here, outcome⟩ := ends
  cases r with
  | ok value => exact ⟨here, outcome⟩
  | error fault => exact others fault outcome s' here

theorem mono {better : α → Prop} {worse : ε → Prop} (yields : Yields inv good may job)
    (values : ∀ value, good value → better value) (faults : ∀ fault, may fault → worse fault) :
    Yields inv better worse job := by
  intro s here
  refine (yields s here).mono fun r s' ends => ⟨ends.1, ?_⟩
  cases r with
  | ok value => exact values value ends.2
  | error fault => exact faults fault ends.2

theorem mapM {γ : Type} {f : γ → ExceptT ε (StateM σ) α} {xs : List γ}
    (each : ∀ x ∈ xs, Yields inv (fun _ => True) may (f x)) : Yields inv (fun _ => True) may (xs.mapM f) := by
  induction xs with
  | nil => exact pure trivial
  | cons x rest ih =>
    rw [List.mapM_cons]
    refine bind (each x List.mem_cons_self) fun value _ => ?_
    exact bind (ih fun y member => each y (List.mem_cons_of_mem x member)) fun values _ => pure trivial

end Yields

/-! ## Jobs on a world -/

theorem mapError_ok {ε' : Type} (turn : ε → ε') (value : α) :
    (Except.ok value : Except ε α).mapError turn = .ok value := rfl

theorem mapError_error {ε' : Type} (turn : ε → ε') (fault : ε) :
    (Except.error fault : Except ε α).mapError turn = .error (turn fault) := rfl

namespace Ends

variable {world : World}

@[simp] theorem onDisk_iff {job : FileJob α} {post : Except Fault α → World → Prop} :
    Ends (Job.onDisk job) world post ↔
      Ends job world.disk fun r disk => post (r.mapError .file) { world with disk := disk } := by
  have run : (Job.onDisk job).run world =
      ((job.run world.disk).1.mapError .file, { world with disk := (job.run world.disk).2 }) := by
    unfold Job.onDisk
    rw [ExceptT.run_mk]
    split
    · next same => rw [same, mapError_ok]
    · next same => rw [same, mapError_error]
  simp only [Ends, run]

@[simp] theorem attempt_iff {job : Job α} {post : Except Fault (Except Fault α) → World → Prop} :
    Ends (Job.attempt job) world post ↔ Ends job world fun r world' => post (.ok r) world' := Iff.rfl

@[simp] theorem record_iff {level : LogLevel} {source message : String}
    {post : Except Fault Unit → World → Prop} :
    Ends (Job.record level source message) world post ↔
      post (.ok ()) { world with log := world.log ++ [⟨level, source, message⟩] } := Iff.rfl

/-- A fault that is turned into another one matters only where it matters which one it is. -/
theorem refused {job : Job α} {turn : OsFault → Fault} {post : Except Fault α → World → Prop}
    (ends : Ends job world post)
    (alike : ∀ fault other world', post (.error fault) world' → post (.error other) world') :
    Ends (Job.refused job turn) world post := by
  unfold Job.refused
  rw [Ends.tryCatch_iff]
  refine ends.mono fun r world' holds => ?_
  cases r with
  | ok value => exact holds
  | error fault =>
    rw [caught_error]
    split <;> exact alike _ _ world' holds

@[simp] theorem ofExcept_iff {outcome : Except Fault α} {post : Except Fault α → World → Prop} :
    Ends (Job.ofExcept outcome) world post ↔ post outcome world := by
  cases outcome <;> rfl

end Ends

theorem Yields.attempt {inv : World → Prop} {good : α → Prop} {may never : Fault → Prop} {job : Job α}
    (yields : Yields inv good may job) :
    Yields inv (IsOutcome good may) never (Job.attempt job) := by
  intro world here
  rw [Ends.attempt_iff]
  exact yields world here

theorem Yields.record (level : LogLevel) (source message : String) {may : Fault → Prop} :
    Yields (fun _ => True) (fun _ => True) may (Job.record level source message) :=
  fun _ _ => ⟨trivial, trivial⟩

/-- What happens on a disk fails with a fault of the disk. -/
theorem Yields.onDisk (job : FileJob α) : Yields (fun _ => True) (fun _ => True)
    (fun fault => ∃ refused, fault = .file refused) (Job.onDisk job) := by
  intro world _
  rw [Ends.onDisk_iff]
  have ends : Ends job world.disk fun _ _ => True := trivial
  refine ends.mono fun r _ _ => ⟨trivial, ?_⟩
  cases r with
  | ok _ => trivial
  | error fault => exact ⟨fault, rfl⟩

/-! ### Failures of stages -/

/-- A fault that is the failure of a stage only if that is one of some kind. -/
def Fault.IsOnly (may : StageFault → Prop) (fault : Fault) : Prop :=
  ∀ failure, fault = .stage failure → may failure

/-- Wherever it is run, a job ends in the failure of a stage only if that is one of some kind. -/
def Job.FailsOnly {α : Type} (may : StageFault → Prop) (job : Job α) : Prop :=
  Yields (fun _ => True) (fun _ => True) (Fault.IsOnly may) job

namespace Job.FailsOnly

variable {may : StageFault → Prop}

theorem ends {job : Job α} (fails : FailsOnly may job) (world : World) :
    Ends job world fun r _ => ∀ failure, r = .error (.stage failure) → may failure := by
  refine (fails world trivial).mono fun r _ ends failure raised => ?_
  subst raised
  exact ends.2 failure rfl

theorem onDisk (job : FileJob α) : FailsOnly may (Job.onDisk job) := by
  refine Yields.mono (Yields.onDisk job) (fun _ holds => holds) fun fault refused => ?_
  obtain ⟨refused, rfl⟩ := refused
  exact nofun

theorem ofExcept {outcome : Except ε α} {turn : ε → Fault} (turned : ∀ fault, (turn fault).IsOnly may) :
    FailsOnly may (Job.ofExcept (outcome.mapError turn)) := by
  intro world _
  rw [Ends.ofExcept_iff]
  cases outcome with
  | ok value => exact ⟨trivial, trivial⟩
  | error fault => exact ⟨trivial, turned fault⟩

end Job.FailsOnly

/-- A job changes nothing, and the disk decides how it ends. -/
def ReadsDisk (job : Job α) : Prop :=
  ∃ answer : Disk → Except Fault α, ∀ world, job.run world = (answer world.disk, world)

namespace ReadsDisk

theorem reads {job : Job α} (reads : ReadsDisk job) : Reads job := by
  obtain ⟨answer, run⟩ := reads
  exact fun world => (Ends.of_run (run world)).mpr rfl

theorem ofExcept (outcome : Except Fault α) : ReadsDisk (Job.ofExcept outcome) := by
  refine ⟨fun _ => outcome, fun world => ?_⟩
  cases outcome <;> rfl

theorem pure (value : α) : ReadsDisk (pure value) := ofExcept (.ok value)

theorem onDisk {job : FileJob α} (reads : Reads job) : ReadsDisk (Job.onDisk job) := by
  refine ⟨fun disk => (job.run disk).1.mapError .file, fun world => ?_⟩
  obtain ⟨outcome, run⟩ := reads.run world.disk
  simp only [Job.onDisk, ExceptT.run_mk, run]
  cases outcome <;> rfl

theorem bind {job : Job α} {next : α → Job β} (first : ReadsDisk job)
    (others : ∀ value, ReadsDisk (next value)) : ReadsDisk (job >>= next) := by
  obtain ⟨answer, run⟩ := first
  obtain ⟨answers, runs⟩ := Classical.axiomOfChoice others
  refine ⟨fun disk => (answer disk).bind fun value => answers value disk, fun world => ?_⟩
  have ends : Ends (job >>= next) world fun r after =>
      r = (answer world.disk).bind (fun value => answers value world.disk) ∧ after = world := by
    rw [Ends.bind_iff, Ends.of_run (run world)]
    cases answer world.disk with
    | error fault => exact ⟨rfl, rfl⟩
    | ok value =>
      rw [onward_ok, Ends.of_run (runs value world)]
      exact ⟨rfl, rfl⟩
  exact Prod.ext ends.1 ends.2

theorem ite {condition : Prop} [Decidable condition] {job other : Job α} (yes : ReadsDisk job)
    (no : ReadsDisk other) : ReadsDisk (if condition then job else other) := by
  split
  · exact yes
  · exact no

end ReadsDisk
end JavaStubs

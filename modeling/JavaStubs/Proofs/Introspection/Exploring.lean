import JavaStubs.Proofs.Introspection.Remembering

/-!
Two ways to use a disassembler. One walks through its listings and notes then which runs that took, the other
runs it for each name when its turn comes, and follows a hierarchy up to a number of names. As long as runs have
no effects, and no more names have a listing, both describe a type alike and leave the same.
-/
namespace JavaStubs.Disassembler

open Hierarchy

variable {tool : Disassembler} {world : World} {name : String} {names : List String} {listings : Listings}

/-- The runs of a tool, one by one. -/
def job (tool : Disassembler) (arguments : List String) : Job Outcome :=
  Job.ofExcept ((tool.run arguments).mapError ToolFault.toFault)

/-- The names that the tool has a listing for are among its names. -/
def IsListed (tool : Disassembler) : Prop :=
  ∀ name listing, tool.listingOf name = .ok listing → name ∈ tool.names

theorem IsListed.get (listed : tool.IsListed) (name : String) : tool.listings.get name = tool.listingOf name := by
  unfold listings Listings.among
  dsimp only
  cases answer : tool.listingOf name with
  | error refusal => rfl
  | ok listing => exact if_pos (by simpa using listed name listing answer)

/-! ## One name -/

theorem noteAsked_cons {post : Except Fault Unit → World → Prop} :
    Ends (tool.noteAsked (name :: names)) world post ↔
      Ends (tool.noteAsked [name]) world fun _ after => Ends (tool.noteAsked names) after post := by
  cases kept : world.listings.lookup name with
  | some listing =>
    rw [noteAsked_kept (by simp [kept]), noteAsked_kept (by simp [kept])]
    rfl
  | none =>
    cases answer : tool.listings.get name with
    | ok listing =>
      rw [noteAsked_new kept answer, noteAsked_new kept answer]
      rfl
    | error refusal =>
      rw [noteAsked_refused kept answer, noteAsked_refused kept answer]
      rfl

/-- Noting the runs for names goes well. -/
theorem noteAsked_bind {α : Type} {next : Job α} {post : Except Fault α → World → Prop} :
    Ends (tool.noteAsked names >>= fun _ => next) world post ↔
      Ends (tool.noteAsked names) world fun _ after => Ends next after post := by
  have done : Ends (tool.noteAsked names) world fun r _ => r = .ok () := by
    induction names generalizing world with
    | nil => rfl
    | cons name names ih => exact noteAsked_cons.mpr ih
  obtain ⟨r, after, run⟩ := Ends.exists_run (tool.noteAsked names) world
  rw [Ends.of_run run] at done
  rw [Ends.bind_iff, Ends.of_run run, Ends.of_run run, done, onward_ok]

/-- What names are answered with stays the same when one is asked for. -/
theorem noteAsked_known (tool : Disassembler) (world : World) (name : String) :
    Ends (tool.noteAsked [name]) world fun _ after =>
      ∀ other, (tool.known after).get other = (tool.known world).get other := by
  cases kept : world.listings.lookup name with
  | some listing =>
    rw [noteAsked_kept (by simp [kept])]
    exact fun _ => rfl
  | none =>
    cases answer : tool.listings.get name with
    | ok listing =>
      rw [noteAsked_new kept answer]
      intro other
      change (tool.known (tool.ran world name listing)).get other = _
      by_cases same : other = name
      · subst same
        simp [known, Listings.keeping, lookup_ran, kept, answer]
      · simp [known, Listings.keeping, lookup_ran, same]
    | error refusal =>
      rw [noteAsked_refused kept answer]
      exact fun _ => rfl

/-- A refusal for want of an outcome ends a description at once. -/
def settled : Except Refusal Listing → Except Fault (Except Refusal Listing)
  | .error (.noOutcome fault) => .error fault.toFault
  | answer => .ok answer

theorem listingIn_ne_noOutcome (name : String) (outcome : Outcome) (fault : ToolFault) :
    listingIn name outcome ≠ .error (.noOutcome fault) := by
  unfold listingIn
  split
  · exact nofun
  · split
    · exact nofun
    · split <;> exact nofun

theorem listingOf_of_ok {outcome : Outcome} (run : tool.run (tool.arguments name) = .ok outcome) :
    tool.listingOf name = listingIn name outcome := by
  rw [listingOf, run]

/-- A name is answered as it is known, and that leaves what noting the run for it does. -/
theorem answer_iff (listed : tool.IsListed) {post : Except Fault (Except Refusal Listing) → World → Prop} :
    Ends (answer tool.command tool.classpath tool.job name) world post ↔
      Ends (tool.noteAsked [name]) world fun _ after => post (settled ((tool.known world).get name)) after := by
  unfold answer
  rw [Ends.bind_iff, Ends.get_iff, onward_ok]
  cases kept : world.listings.lookup name with
  | some listing =>
    have answered : (tool.known world).get name = .ok listing := by simp [known, Listings.keeping, kept]
    rw [noteAsked_kept (by simp [kept]), answered]
    rfl
  | none =>
    have answered : (tool.known world).get name = tool.listingOf name := by
      simp [known, Listings.keeping, kept, listed.get]
    have noted : (noteRun (tool.arguments name)).run world = (.ok (), tool.tried world name) := rfl
    have refused {refusal : Refusal} (same : tool.listingOf name = .error refusal) :
        Ends (tool.noteAsked [name]) world (fun _ after => post (settled (tool.listingOf name)) after) ↔
          post (settled (.error refusal)) (tool.tried world name) := by
      rw [noteAsked_refused kept ((listed.get name).trans same), same]
      rfl
    change Ends (noteRun (tool.arguments name) >>= _) world post ↔ _
    rw [Ends.bind_iff, Ends.of_run noted, onward_ok, Ends.bind_iff, Ends.attempt_iff]
    change Ends (Job.ofExcept ((tool.run (tool.arguments name)).mapError ToolFault.toFault)) _ _ ↔ _
    rw [Ends.ofExcept_iff, onward_ok, answered]
    cases run : tool.run (tool.arguments name) with
    | error fault =>
      cases fault with
      | refused fault =>
        cases fault with
        | os fault => exact (refused (by rw [listingOf, run])).symm
        | _ => exact (refused (by rw [listingOf, run])).symm
      | _ => exact (refused (by rw [listingOf, run])).symm
    | ok outcome =>
      have ended := listingOf_of_ok run
      cases read : listingIn name outcome with
      | ok listing =>
        rw [noteAsked_new kept ((listed.get name).trans (ended.trans read)), ended, read]
        dsimp only [mapError_ok]
        rw [read]
        rfl
      | error refusal =>
        rw [refused (ended.trans read)]
        dsimp only [mapError_ok]
        rw [read]
        cases refusal with
        | noOutcome fault => exact absurd read (listingIn_ne_noOutcome name outcome fault)
        | _ => rfl

/-! ## A hierarchy -/

/-- How asking for the names of a walk ends: with what each is answered, or at once for want of an outcome. -/
def answersOf {α : Type} (listings : Listings) (walked : List String × Except Refusal α) :
    Except Fault (List (String × Except Refusal Listing)) :=
  match walked.2 with
  | .error (.noOutcome fault) => .error fault.toFault
  | _ => .ok (walked.1.map fun name => (name, listings.get name))

theorem answersOf_cons {listing : Listing} {asked : List String} {result : Except Refusal (List Method)}
    {methods : List Method} (known : listings.get name = .ok listing) :
    answersOf listings (name :: asked, result.map (methods ++ ·)) =
      (answersOf listings (asked, result)).map ((name, .ok listing) :: ·) := by
  unfold answersOf
  cases result with
  | ok others => simp [Except.map, known]
  | error refusal => cases refusal <;> simp [Except.map, known]

/-- How many of the names that have listings are still to be seen. -/
def unseen (listings : Listings) (seen : List String) : Nat :=
  (listings.names.filter (!seen.contains ·)).length

/-- Names are asked for as far as the limit goes. -/
theorem answers_new (listed : tool.IsListed) {limit : Nat} {seen pending : List String}
    {post : Except Fault (List (String × Except Refusal Listing)) → World → Prop} (new : name ∉ seen) :
    Ends (answers (answer tool.command tool.classpath tool.job) (limit + 1) seen (name :: pending)) world post ↔
      Ends (tool.noteAsked [name]) world fun _ after =>
        match settled ((tool.known world).get name) with
        | .error fault => post (.error fault) after
        | .ok answered =>
          Ends (answers (answer tool.command tool.classpath tool.job) limit (name :: seen)
            (following name pending answered)) after
            fun r later => post (r.map ((name, answered) :: ·)) later := by
  rw [answers.eq_def]
  dsimp only
  rw [if_neg new, Ends.bind_iff, answer_iff listed]
  cases settled ((tool.known world).get name) with
  | error fault => rfl
  | ok answered =>
    simp only [onward_ok, bind_pure_comp, Ends.map_iff]

theorem answers_nil {limit : Nat} {seen : List String} {ask : String → Job (Except Refusal Listing)}
    {post : Except Fault (List (String × Except Refusal Listing)) → World → Prop} :
    Ends (answers ask limit seen []) world post ↔ post (.ok []) world := by
  rw [answers.eq_def]
  rfl

/-- Where no more names have listings than the limit allows for, a walk is followed to its end. -/
theorem answers_iff (listed : tool.IsListed) {limit : Nat} {seen pending : List String}
    {post : Except Fault (List (String × Except Refusal Listing)) → World → Prop}
    (same : ∀ name, (tool.known world).get name = listings.get name) (room : unseen listings seen < limit) :
    Ends (answers (answer tool.command tool.classpath tool.job) limit seen pending) world post ↔
      Ends (tool.noteAsked (walk listings seen pending).1) world fun _ after =>
        post (answersOf listings (walk listings seen pending)) after := by
  fun_induction walk listings seen pending generalizing world limit post with
  | case1 seen => exact answers_nil
  | case2 seen name pending old ih =>
    rw [answers.eq_def]
    dsimp only
    rw [if_pos old]
    exact ih same room
  | case3 seen name pending new refusal refused =>
    obtain ⟨limit, rfl⟩ := Nat.exists_eq_add_one_of_ne_zero (Nat.ne_of_gt (Nat.zero_lt_of_lt room))
    rw [answers_new listed new, same, refused]
    cases refusal with
    | noOutcome fault => rfl
    | _ =>
      simp only [settled, following, answers_nil, answersOf, List.map_cons, List.map_nil, refused]
      rfl
  | case4 seen name pending new listing known cause undecoded =>
    obtain ⟨limit, rfl⟩ := Nat.exists_eq_add_one_of_ne_zero (Nat.ne_of_gt (Nat.zero_lt_of_lt room))
    rw [answers_new listed new, same, known]
    simp only [settled, following, undecoded, answers_nil, answersOf, List.map_cons, List.map_nil, known]
    rfl
  | case5 seen name pending new listing known methods read asked others walked ih =>
    obtain ⟨limit, rfl⟩ := Nat.exists_eq_add_one_of_ne_zero (Nat.ne_of_gt (Nat.zero_lt_of_lt room))
    have fewer : unseen listings (name :: seen) < limit := by
      have less := length_unseen_lt (listings.mem_names known) new
      unfold unseen at room ⊢
      omega
    have kept := noteAsked_known tool world name
    obtain ⟨done, middle, run⟩ := Ends.exists_run (tool.noteAsked [name]) world
    rw [Ends.of_run run] at kept
    have followed : following name pending (.ok listing) = parents listing ++ pending := by
      rw [following, read]
    rw [walked] at ih
    rw [answers_new listed new, same, known]
    dsimp only [settled]
    rw [@noteAsked_cons tool world name asked, Ends.of_run run, Ends.of_run run, followed,
      ih (fun other => (kept other).trans (same other)) fewer, answersOf_cons known]

/-- A description from answers is one from the listings, if these are the answers to all that is asked for. -/
theorem describe_among {table : List (String × Except Refusal Listing)}
    (answered : ∀ other ∈ (describe listings name).1, table.lookup other = some (listings.get other)) :
    describe (Listings.among (table.map Prod.fst) fun other =>
      (table.lookup other).getD (.error (.input (.unrecognised other)))) name = describe listings name := by
  refine describe_of_asked fun other member => ?_
  have there := answered other member
  have listed : other ∈ table.map Prod.fst := by
    obtain ⟨before, after, rfl, -⟩ := List.lookup_eq_some_iff.mp there
    simp
  unfold Listings.among
  dsimp only
  rw [there, Option.getD_some]
  cases listings.get other with
  | error refusal => rfl
  | ok listing => exact if_pos (by simpa using listed)

theorem lookup_answers (listings : Listings) (asked : List String) (name : String) :
    (asked.map fun other => (other, listings.get other)).lookup name =
      if name ∈ asked then some (listings.get name) else none := by
  induction asked with
  | nil => rfl
  | cons other asked ih =>
    rw [List.map_cons, List.lookup_cons, ih]
    by_cases same : name = other
    · simp [same]
    · simp [same, beq_false_of_ne same]

/-- A tool that is run when a name's turn comes describes types as one whose listings are given beforehand, and
leaves the same. -/
theorem explorer_iff (listed : tool.IsListed) {post : Except Fault Interface → World → Prop}
    (few : (world.listings.map Prod.fst ++ tool.names).length < nameLimit) (name : String) :
    Ends (explorer tool.command tool.classpath tool.job name) world post ↔
      Ends (tool.introspector name) world post := by
  unfold explorer introspector
  dsimp only
  rw [Ends.bind_iff, answer_iff listed, Ends.bind_iff, Ends.get_iff, onward_ok]
  change _ ↔ Ends (tool.noteAsked (describe (tool.known world) name).1 >>= fun _ =>
    located tool.classpath (describe (tool.known world) name).2) world post
  rw [noteAsked_bind]
  have room : unseen (tool.known world) [] < nameLimit :=
    Nat.lt_of_le_of_lt (List.length_filter_le _ _) few
  cases first : (tool.known world).get name with
  | error refusal =>
    have described : describe (tool.known world) name = ([name], .error refusal) := by
      rw [describe, first]
    have again := @describe_among name (tool.known world) [(name, .error refusal)] fun other member => by
      rw [described] at member
      simp [List.mem_singleton.mp member, first]
    rw [described] at again ⊢
    cases refusal with
    | noOutcome fault => rfl
    | _ =>
      simp only [settled, onward_ok, Ends.bind_iff, Ends.pure_iff, List.nil_append]
      rw [again]
  | ok listing =>
    have described : describe (tool.known world) name =
        (name :: (walk (tool.known world) [] [listing.name]).1,
          (walk (tool.known world) [] [listing.name]).2.map (found listing)) := by
      rw [describe, first]
    have kept := noteAsked_known tool world name
    obtain ⟨done, middle, run⟩ := Ends.exists_run (tool.noteAsked [name]) world
    rw [Ends.of_run run] at kept
    have again := @describe_among name (tool.known world)
      ((walk (tool.known world) [] [listing.name]).1.map (fun other => (other, (tool.known world).get other)) ++
        [(name, .ok listing)]) fun other member => by
      rw [described] at member
      rw [List.lookup_append, lookup_answers]
      by_cases among : other ∈ (walk (tool.known world) [] [listing.name]).1
      · simp [among]
      · obtain rfl := (List.mem_cons.mp member).resolve_right among
        simp [among, first]
    rw [described] at again ⊢
    dsimp only [settled]
    rw [@noteAsked_cons tool world name (walk (tool.known world) [] [listing.name]).1, Ends.of_run run,
      Ends.of_run run, onward_ok, Ends.bind_iff, answers_iff listed kept room]
    cases walked : (walk (tool.known world) [] [listing.name]).2 with
    | ok methods =>
      rw [walked] at again
      simp only [answersOf, walked, onward_ok, again]
    | error refusal =>
      rw [walked] at again
      cases refusal with
      | noOutcome fault =>
        simp only [answersOf, walked]
        rfl
      | _ => simp only [answersOf, walked, onward_ok, again]

end JavaStubs.Disassembler

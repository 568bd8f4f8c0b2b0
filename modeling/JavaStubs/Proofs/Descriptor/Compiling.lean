import JavaStubs.Descriptor.Schema

/-!
Schemas that are compiled one after another. A compiled schema is kept under its identifier, and a schema without
one under the empty text, so that what is answered for a schema is the first one that was accepted under its
identifier. It says the same as the schema itself as long as an identifier stands for one schema.
-/
namespace JavaStubs.Schema

/-! ## One schema -/

/-- What a value is kept under: its identifier, where none is the empty one. -/
def identifierOf? : Value → Option String
  | .table fields =>
    match (Fields.get? fields "$id").getD (.text "") with
    | .text id => some id
    | _ => none
  | _ => none

/-- The answer for a value when nothing is kept. -/
def fresh (value : Value) : Except Fault Schema := (compile [] value).map Prod.fst

variable {cache : Cache} {value : Value} {id : String} {schema : Schema}

theorem compile_of_unidentified (unidentified : identifierOf? value = none) (cache : Cache) :
    ∃ fault, compile cache value = .error fault ∧ fresh value = .error fault := by
  cases value with
  | table fields =>
    unfold identifierOf? at unidentified
    unfold fresh compile
    dsimp only at unidentified ⊢
    cases found : (Fields.get? fields "$id").getD (.text "") with
    | text id =>
      rw [found] at unidentified
      cases unidentified
    | list items => exact ⟨.noIdentifier, rfl, rfl⟩
    | table inner => exact ⟨.noIdentifier, rfl, rfl⟩
    | _ => exact ⟨.illFormed, rfl, rfl⟩
  | _ => exact ⟨.noTable, rfl, rfl⟩

theorem compile_of_identified (identified : identifierOf? value = some id) (cache : Cache) :
    compile cache value = match cache.lookup id with
      | some schema => .ok (schema, cache)
      | none => (fresh value).map fun schema => (schema, cache ++ [(id, schema)]) := by
  cases value with
  | table fields =>
    unfold identifierOf? at identified
    unfold fresh compile
    dsimp only at identified ⊢
    cases found : (Fields.get? fields "$id").getD (.text "") with
    | text other =>
      rw [found] at identified
      obtain rfl := Option.some.inj identified
      dsimp only
      cases cache.lookup other with
      | some schema => rfl
      | none => cases ofFields? fields <;> rfl
    | _ =>
      rw [found] at identified
      cases identified
  | _ => cases identified

/-! ## Schemas one after another -/

/-- The answers for values that are compiled one after another; a fault leaves what is kept. -/
def compileEach : Cache → List Value → List (Except Fault Schema)
  | _, [] => []
  | cache, value :: rest =>
    match compile cache value with
    | .ok (schema, cache) => .ok schema :: compileEach cache rest
    | .error fault => .error fault :: compileEach cache rest

/-- Whether a value is accepted under an identifier. -/
def isAcceptedAs (id : Option String) (value : Value) : Bool :=
  identifierOf? value == id && (fresh value).isOk

/-- The value whose schema is answered for one that is compiled after others: the first of them that was
accepted under its identifier, or else itself. -/
def keeper (before : List Value) (value : Value) : Value :=
  (before.find? (isAcceptedAs (identifierOf? value))).getD value

/-- A cache keeps what was accepted first under each identifier. -/
def Keeps (cache : Cache) (before : List Value) : Prop :=
  ∀ id, cache.lookup id = (before.find? (isAcceptedAs (some id))).bind fun value => (fresh value).toOption

theorem Keeps.start : Keeps [] [] := fun _ => rfl

variable {before : List Value}

theorem isAcceptedAs_iff {found : Option String} :
    isAcceptedAs found value = true ↔ identifierOf? value = found ∧ ∃ schema, fresh value = .ok schema := by
  unfold isAcceptedAs
  rw [Bool.and_eq_true, beq_iff_eq]
  refine and_congr_right fun _ => ?_
  cases fresh value with
  | ok schema => exact iff_of_true rfl ⟨schema, rfl⟩
  | error fault => exact iff_of_false (by simp [Except.isOk, Except.toBool]) (by simp)

/-- What was accepted first under an identifier is what is kept under it. -/
theorem Keeps.lookup_of_find (keeps : Keeps cache before) {earlier : Value}
    (found : before.find? (isAcceptedAs (some id)) = some earlier) :
    ∃ schema, cache.lookup id = some schema ∧ fresh earlier = .ok schema := by
  obtain ⟨-, schema, accepted⟩ := isAcceptedAs_iff.mp (List.find?_some found)
  exact ⟨schema, by rw [keeps id, found, Option.bind_some, accepted]; rfl, accepted⟩

theorem Keeps.lookup_of_none (keeps : Keeps cache before)
    (none : before.find? (isAcceptedAs (some id)) = none) : cache.lookup id = .none := by
  rw [keeps id, none, Option.bind_none]

/-- A value that is not accepted, or under an identifier that is known, is not kept. -/
theorem Keeps.pass (keeps : Keeps cache before)
    (known : ∀ id, isAcceptedAs (some id) value = true → ∃ schema, cache.lookup id = some schema) :
    Keeps cache (before ++ [value]) := by
  intro id
  rw [List.find?_append]
  cases found : before.find? (isAcceptedAs (some id)) with
  | some earlier =>
    rw [keeps id, found]
    rfl
  | none =>
    have unknown := keeps.lookup_of_none found
    have unaccepted : ¬ isAcceptedAs (some id) value = true := by
      intro accepted
      obtain ⟨schema, kept⟩ := known id accepted
      rw [unknown] at kept
      cases kept
    rw [unknown, List.find?_cons_of_neg unaccepted]
    rfl

/-- A value that is accepted under a new identifier is kept. -/
theorem Keeps.add (keeps : Keeps cache before) (identified : identifierOf? value = some id)
    (new : cache.lookup id = none) (accepted : fresh value = .ok schema) :
    Keeps (cache ++ [(id, schema)]) (before ++ [value]) := by
  intro other
  rw [List.find?_append, List.lookup_append]
  cases found : before.find? (isAcceptedAs (some other)) with
  | some earlier =>
    obtain ⟨kept, there, same⟩ := keeps.lookup_of_find found
    rw [there, Option.some_or, Option.some_or, Option.bind_some, same]
    rfl
  | none =>
    rw [keeps.lookup_of_none found, Option.none_or, Option.none_or]
    by_cases same : other = id
    · subst same
      have accepted_as : isAcceptedAs (some other) value = true := isAcceptedAs_iff.mpr ⟨identified, schema, accepted⟩
      rw [List.find?_cons_of_pos accepted_as, Option.bind_some, accepted]
      simp [Except.toOption]
    · have unaccepted : ¬ isAcceptedAs (some other) value = true := by
        intro accepted
        obtain ⟨there, -⟩ := isAcceptedAs_iff.mp accepted
        exact same (Option.some.inj (there.symm.trans identified))
      rw [List.find?_cons_of_neg unaccepted]
      simp [same]

/-- A call is answered with the schema of the keeper, and leaves what is kept then. -/
theorem Keeps.compile (keeps : Keeps cache before) (value : Value) :
    (∃ schema after, compile cache value = .ok (schema, after) ∧ fresh (keeper before value) = .ok schema ∧
      Keeps after (before ++ [value])) ∨
    ∃ fault, compile cache value = .error fault ∧ fresh (keeper before value) = .error fault ∧
      Keeps cache (before ++ [value]) := by
  cases identified : identifierOf? value with
  | none =>
    obtain ⟨fault, refused, bare⟩ := compile_of_unidentified identified cache
    have itself : keeper before value = value := by
      have none : before.find? (isAcceptedAs none) = none := by
        rw [List.find?_eq_none]
        intro earlier _ accepted
        obtain ⟨unidentified, schema, answer⟩ := isAcceptedAs_iff.mp accepted
        obtain ⟨fault, -, refused⟩ := compile_of_unidentified unidentified []
        rw [refused] at answer
        cases answer
      rw [keeper, identified, none, Option.getD_none]
    refine .inr ⟨fault, refused, by rw [itself, bare], keeps.pass fun id accepted => ?_⟩
    have there := (isAcceptedAs_iff.mp accepted).1
    rw [identified] at there
    cases there
  | some id =>
    rw [compile_of_identified identified]
    cases found : before.find? (isAcceptedAs (some id)) with
    | some earlier =>
      obtain ⟨schema, kept, accepted⟩ := keeps.lookup_of_find found
      refine .inl ⟨schema, cache, by rw [kept], ?_, keeps.pass fun other accepted => ?_⟩
      · rw [keeper, identified, found, Option.getD_some, accepted]
      · have there := (isAcceptedAs_iff.mp accepted).1
        rw [identified] at there
        obtain rfl := Option.some.inj there
        exact ⟨schema, kept⟩
    | none =>
      have new := keeps.lookup_of_none found
      have itself : keeper before value = value := by rw [keeper, identified, found, Option.getD_none]
      rw [new, itself]
      cases answer : fresh value with
      | ok schema => exact .inl ⟨schema, _, rfl, rfl, keeps.add identified new answer⟩
      | error fault =>
        refine .inr ⟨fault, rfl, rfl, keeps.pass fun other accepted => ?_⟩
        obtain ⟨-, schema, accepted⟩ := isAcceptedAs_iff.mp accepted
        rw [answer] at accepted
        cases accepted

/-- The answers for values after others that are kept. -/
theorem Keeps.compileEach (keeps : Keeps cache before) (values : List Value) (value : Value) (rest : List Value) :
    (compileEach cache (values ++ value :: rest))[values.length]? =
      some (fresh (keeper (before ++ values) value)) := by
  induction values generalizing cache before with
  | nil =>
    rw [List.append_nil, List.nil_append, Schema.compileEach]
    rcases keeps.compile value with ⟨schema, after, answer, same, -⟩ | ⟨fault, answer, same, -⟩
    · rw [answer, same]
      rfl
    · rw [answer, same]
      rfl
  | cons first values ih =>
    rw [List.cons_append, Schema.compileEach]
    rcases keeps.compile first with ⟨schema, after, answer, -, keeps⟩ | ⟨fault, answer, -, keeps⟩
    · have later := ih keeps
      rw [List.append_assoc, List.singleton_append] at later
      rw [answer]
      exact later
    · have later := ih keeps
      rw [List.append_assoc, List.singleton_append] at later
      rw [answer]
      exact later

/-- Two answers are schemas that every value breaks alike, or the same fault. -/
def ReportAlike : Except Fault Schema → Except Fault Schema → Prop
  | .ok schema, .ok other => ∀ value, schema.violations value = other.violations value
  | .error fault, .error other => fault = other
  | _, _ => False

theorem ReportAlike.refl (answer : Except Fault Schema) : ReportAlike answer answer := by
  cases answer with
  | ok schema => exact fun _ => rfl
  | error fault => rfl

/-- Wherever a schema stands in a sequence of calls, it is answered with the first one that was accepted under
its identifier. So the answer reports what the schema itself does if that is so for each schema that was accepted
before under its identifier. -/
theorem compileEach_answers (before : List Value) (value : Value) (rest : List Value) :
    (compileEach [] (before ++ value :: rest))[before.length]? = some (fresh (keeper before value)) ∧
    ((∀ earlier ∈ before, isAcceptedAs (identifierOf? value) earlier = true →
        ReportAlike (fresh earlier) (fresh value)) →
      ReportAlike (fresh (keeper before value)) (fresh value)) := by
  refine ⟨Keeps.start.compileEach before value rest, fun alike => ?_⟩
  unfold keeper
  cases found : before.find? (isAcceptedAs (identifierOf? value)) with
  | none => exact .refl (fresh value)
  | some earlier => exact alike earlier (List.mem_of_find?_eq_some found) (List.find?_some found)

/-- The schema of texts, without an identifier. -/
def texts : Value := .table [("type", .text "string")]

/-- The schema of whole numbers, without an identifier. -/
def numbers : Value := .table [("type", .text "integer")]

/-- Compiled after the schema of texts, the schema of numbers is taken for it, and passes a text. -/
theorem unnamed_confused : ∃ answer,
    (compileEach [] [texts, numbers])[1]? = some answer ∧ ¬ ReportAlike answer (fresh numbers) := by
  refine ⟨.ok (.rules [.kind [.string]]), rfl, fun alike => ?_⟩
  have same : (Schema.rules [.kind [.string]]).violations (.text "x") =
      (Schema.rules [.kind [.integer]]).violations (.text "x") := alike (.text "x")
  cases same

end JavaStubs.Schema

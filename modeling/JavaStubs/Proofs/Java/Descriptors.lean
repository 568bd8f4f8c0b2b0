import Mathlib.Data.List.TakeWhile
import JavaStubs.Java.MethodDescriptor

/-!
The grammar of method descriptors. A descriptor is written in one way only, and `decode` reads exactly
what is written: it gives the names of the types in the order in which they stand, and every other text is
refused.
-/
namespace JavaStubs.MethodDescriptor

/-! ## Descriptors and how they are written -/

/-- The types that have a letter. -/
inductive BaseType where
  | byte | char | double | float | int | long | short | boolean | void
  deriving DecidableEq, Repr

namespace BaseType

/-- The letter of a type. -/
def letter : BaseType → Char
  | byte => 'B'
  | char => 'C'
  | double => 'D'
  | float => 'F'
  | int => 'I'
  | long => 'J'
  | short => 'S'
  | boolean => 'Z'
  | void => 'V'

/-- The word of a type in sources. -/
def word : BaseType → String
  | byte => "byte"
  | char => "char"
  | double => "double"
  | float => "float"
  | int => "int"
  | long => "long"
  | short => "short"
  | boolean => "boolean"
  | void => "void"

end BaseType

/-- A binary name, which a semicolon ends. -/
structure ClassName where
  text : List Char
  unended : ';' ∉ text

/-- A type as descriptors have it. -/
inductive FieldType where
  | base (type : BaseType)
  | object (name : ClassName)
  | array (items : FieldType)

/-- A character of a binary name in sources: what separates there is a dot here. -/
def sourceChar (c : Char) : Char := if c = '/' ∨ c = '$' then '.' else c

namespace FieldType

def written : FieldType → List Char
  | base type => [type.letter]
  | object name => 'L' :: (name.text ++ [';'])
  | array items => '[' :: items.written

/-- A type in sources. -/
def named : FieldType → String
  | base type => type.word
  | object name => String.ofList (name.text.map sourceChar)
  | array items => items.named ++ "[]"

end FieldType

/-- What a method descriptor says. -/
structure Signature where
  parameters : List FieldType
  returned : FieldType

namespace Signature

def written (signature : Signature) : List Char :=
  '(' :: (signature.parameters.flatMap FieldType.written ++ ')' :: signature.returned.written)

/-- The names of the types of a signature. -/
def types (signature : Signature) : List TypeName × TypeName :=
  (signature.parameters.map fun type => ⟨type.named⟩, ⟨signature.returned.named⟩)

end Signature

/-! ## One type -/

variable {dimensions : Nat} {text rest other : List Char} {read : TypeName}

theorem exists_of_baseType? {c : Char} {name : String} (known : baseType? c = some name) :
    ∃ type : BaseType, type.letter = c ∧ type.word = name := by
  unfold baseType? at known
  split at known
  case h_10 => cases known
  all_goals obtain rfl := Option.some.inj known
  · exact ⟨.byte, rfl, rfl⟩
  · exact ⟨.char, rfl, rfl⟩
  · exact ⟨.double, rfl, rfl⟩
  · exact ⟨.float, rfl, rfl⟩
  · exact ⟨.int, rfl, rfl⟩
  · exact ⟨.long, rfl, rfl⟩
  · exact ⟨.short, rfl, rfl⟩
  · exact ⟨.boolean, rfl, rfl⟩
  · exact ⟨.void, rfl, rfl⟩

theorem canonicalName_ofList (name : List Char) :
    canonicalName (String.ofList name) = String.ofList (name.map sourceChar) := by
  unfold canonicalName Text.replaced sourceChar
  simp

/-- A text with a semicolon is a binary name, the semicolon and what is left. -/
theorem eq_append_of_contains (ended : text.contains ';' = true) :
    text = text.takeWhile (· != ';') ++ ';' :: (text.dropWhile (· != ';')).drop 1 := by
  induction text with
  | nil => cases ended
  | cons c text ih =>
    by_cases same : c = ';'
    · subst same
      simp
    · have later : text.contains ';' = true := by simpa [Ne.symm same] using ended
      have goes : (c != ';') = true := by simpa using same
      rw [List.takeWhile_cons, if_pos goes, List.dropWhile_cons, if_pos goes, List.cons_append, ← ih later]

theorem unended_takeWhile (text : List Char) : ';' ∉ text.takeWhile (· != ';') := by
  intro member
  have kept := List.mem_takeWhile_imp member
  simp at kept

namespace ClassName

theorem takeWhile_append (name : ClassName) (rest : List Char) :
    (name.text ++ ';' :: rest).takeWhile (· != ';') = name.text := by
  have kept : ∀ c ∈ name.text, (c != ';') = true := by
    intro c member
    have other : c ≠ ';' := fun same => name.unended (same ▸ member)
    simpa using other
  rw [List.takeWhile_append_of_pos kept]
  simp

theorem dropWhile_append (name : ClassName) (rest : List Char) :
    (name.text ++ ';' :: rest).dropWhile (· != ';') = ';' :: rest := by
  have whole := List.takeWhile_append_dropWhile (p := (· != ';')) (l := name.text ++ ';' :: rest)
  rw [takeWhile_append] at whole
  exact List.append_cancel_left whole

/-- A class name in front of a text ends in one way only. -/
theorem append_inj {name another : ClassName} (same : name.text ++ ';' :: rest = another.text ++ ';' :: other) :
    name = another ∧ rest = other := by
  have texts : name.text = another.text := by
    rw [← name.takeWhile_append rest, same, another.takeWhile_append]
  obtain ⟨text, unended⟩ := name
  obtain ⟨_, _⟩ := another
  obtain rfl : text = _ := texts
  exact ⟨rfl, (List.cons.inj (List.append_cancel_left same)).2⟩

end ClassName

/-- A type that is written is read, whatever follows it. -/
theorem type?_written (type : FieldType) (dimensions : Nat) (rest : List Char) :
    type? dimensions (type.written ++ rest) =
      .ok (⟨type.named ++ Text.repeated "[]" dimensions⟩, rest) := by
  induction type generalizing dimensions with
  | base type =>
    cases type <;> rfl
  | object name =>
    have written : (FieldType.object name).written ++ rest = 'L' :: (name.text ++ ';' :: rest) := by
      simp [FieldType.written]
    rw [written, type?, if_pos (by simp), name.takeWhile_append, name.dropWhile_append, canonicalName_ofList]
    rfl
  | array items ih =>
    have written : (FieldType.array items).written ++ rest = '[' :: (items.written ++ rest) := rfl
    rw [written, type?, ih, FieldType.named, Text.repeated, String.append_assoc]

/-- What is read as a type was written for one. -/
theorem exists_of_type? (success : type? dimensions text = .ok (read, rest)) :
    ∃ type : FieldType, type.written ++ rest = text ∧
      (⟨type.named ++ Text.repeated "[]" dimensions⟩ : TypeName) = read := by
  fun_induction type? dimensions text with
  | case1 => cases success
  | case2 dimensions text ih =>
    obtain ⟨items, rfl, rfl⟩ := ih success
    refine ⟨.array items, rfl, ?_⟩
    rw [FieldType.named, Text.repeated, String.append_assoc]
  | case3 dimensions text ended name =>
    obtain ⟨rfl, rfl⟩ := Prod.mk.inj (Except.ok.inj success)
    refine ⟨.object ⟨text.takeWhile (· != ';'), unended_takeWhile text⟩, ?_, ?_⟩
    · have split := eq_append_of_contains ended
      simp only [FieldType.written, List.cons_append, List.append_assoc, List.nil_append]
      rw [← split]
    · rw [FieldType.named, ← canonicalName_ofList]
  | case4 => cases success
  | case5 dimensions c text _ _ name known =>
    obtain ⟨rfl, rfl⟩ := Prod.mk.inj (Except.ok.inj success)
    obtain ⟨type, rfl, rfl⟩ := exists_of_baseType? known
    exact ⟨.base type, rfl, rfl⟩
  | case6 => cases success

/-! ## Types one after another -/

variable {done : List TypeName}

theorem written_cons (type : FieldType) :
    ∃ c front, type.written = c :: front ∧ c ≠ ')' := by
  cases type with
  | base type => exact ⟨type.letter, [], rfl, by cases type <;> decide⟩
  | object name => exact ⟨'L', name.text ++ [';'], rfl, by decide⟩
  | array items => exact ⟨'[', items.written, rfl, by decide⟩

/-- Parameter types that are written are read up to the parenthesis behind them. -/
theorem parameterTypes_written (types : List FieldType) (done : List TypeName) (rest : List Char) :
    parameterTypes done (types.flatMap FieldType.written ++ ')' :: rest) =
      .ok (done.reverse ++ types.map fun type => ⟨type.named⟩, rest) := by
  induction types generalizing done with
  | nil =>
    rw [List.flatMap_nil, List.nil_append, parameterTypes, List.map_nil, List.append_nil]
  | cons type types ih =>
    obtain ⟨c, front, begins, other⟩ := written_cons type
    have first := type?_written type 0 (types.flatMap FieldType.written ++ ')' :: rest)
    rw [List.flatMap_cons, List.append_assoc]
    rw [begins, List.cons_append] at first ⊢
    rw [parameterTypes]
    · rw [first]
      dsimp only
      rw [ih]
      simp [Text.repeated]
    · exact fun same => absurd same other

/-- What is read as parameter types was written for some. -/
theorem exists_of_parameterTypes {found : List TypeName}
    (success : parameterTypes done text = .ok (found, rest)) :
    ∃ types : List FieldType, types.flatMap FieldType.written ++ ')' :: rest = text ∧
      (done.reverse ++ types.map fun type => ⟨type.named⟩) = found := by
  fun_induction parameterTypes done text with
  | case1 => cases success
  | case2 done text =>
    obtain ⟨rfl, rfl⟩ := Prod.mk.inj (Except.ok.inj success)
    exact ⟨[], rfl, by simp⟩
  | case3 => cases success
  | case4 done c text _ type after first ih =>
    obtain ⟨types, rfl, rfl⟩ := ih success
    obtain ⟨field, written, rfl⟩ := exists_of_type? first
    refine ⟨field :: types, ?_, ?_⟩
    · rw [List.flatMap_cons, List.append_assoc, written]
    · simp [Text.repeated]

/-! ## Descriptors -/

/-- The types of a descriptor, read behind its opening parenthesis. -/
def typesBehind (text : List Char) : Except (Nat → Cause) (List TypeName × TypeName) := do
  let (parameters, rest) ← parameterTypes [] text
  let (returned, rest) ← type? 0 rest
  if rest.isEmpty then .ok (parameters, returned) else .error fun _ => .trailing

theorem decode_of_open {descriptor : String} (opened : descriptor.toList = '(' :: text) :
    decode descriptor = (typesBehind text).mapError fun cause => cause descriptor.length := by
  unfold decode
  rw [opened]
  rfl

theorem decode_of_unopened {descriptor : String} (unopened : ∀ text, descriptor.toList ≠ '(' :: text) :
    decode descriptor = .error .noDescriptor := by
  unfold decode
  split
  · next text opened => exact absurd opened (unopened text)
  · rfl

theorem typesBehind_written (signature : Signature) (written : signature.written = '(' :: text) :
    typesBehind text = .ok signature.types := by
  obtain rfl := (List.cons.inj written).2
  have parameters := parameterTypes_written signature.parameters [] signature.returned.written
  have returned := type?_written signature.returned 0 []
  rw [List.append_nil] at returned
  unfold typesBehind
  simp only [bind, Except.bind, parameters, returned]
  simp [Signature.types, Text.repeated]

theorem exists_of_typesBehind {types : List TypeName × TypeName} (success : typesBehind text = .ok types) :
    ∃ signature : Signature, signature.written = '(' :: text ∧ signature.types = types := by
  unfold typesBehind at success
  cases parameters : parameterTypes [] text with
  | error cause =>
    rw [parameters] at success
    cases success
  | ok read =>
    obtain ⟨found, rest⟩ := read
    cases returned : type? 0 rest with
    | error cause =>
      simp only [bind, Except.bind, parameters, returned] at success
      cases success
    | ok read =>
      obtain ⟨type, behind⟩ := read
      simp only [bind, Except.bind, parameters, returned] at success
      cases behind with
      | cons c behind => cases success
      | nil =>
        obtain ⟨fields, first, rfl⟩ := exists_of_parameterTypes parameters
        obtain ⟨field, last, rfl⟩ := exists_of_type? returned
        obtain rfl := Except.ok.inj success
        rw [List.append_nil] at last
        refine ⟨⟨fields, field⟩, ?_, ?_⟩
        · rw [Signature.written, last, first]
        · simp [Signature.types, Text.repeated]

/-- A descriptor is read as the types of the signature that it is written for. -/
theorem decode_eq_ok_iff {descriptor : String} {types : List TypeName × TypeName} :
    decode descriptor = .ok types ↔
      ∃ signature : Signature, signature.written = descriptor.toList ∧ signature.types = types := by
  constructor
  · intro success
    by_cases opened : ∃ text, descriptor.toList = '(' :: text
    · obtain ⟨text, opened⟩ := opened
      rw [decode_of_open opened] at success
      cases read : typesBehind text with
      | error cause =>
        rw [read] at success
        cases success
      | ok found =>
        rw [read] at success
        obtain rfl := Except.ok.inj success
        rw [opened]
        exact exists_of_typesBehind read
    · rw [decode_of_unopened fun text same => opened ⟨text, same⟩] at success
      cases success
  · rintro ⟨signature, written, rfl⟩
    obtain ⟨text, opened⟩ : ∃ text, signature.written = '(' :: text := ⟨_, rfl⟩
    rw [decode_of_open (written.symm.trans opened), typesBehind_written signature opened]
    rfl

/-! ### One way to write -/

theorem BaseType.letter_injective : Function.Injective BaseType.letter := by
  intro a b same
  cases a <;> cases b <;> cases same <;> rfl

theorem BaseType.letter_ne (type : BaseType) : type.letter ≠ 'L' ∧ type.letter ≠ '[' := by
  cases type <;> decide

/-- Two types that begin one text are the same one, and so is what follows them. -/
theorem written_append_inj {s t : FieldType} (same : s.written ++ rest = t.written ++ other) :
    s = t ∧ rest = other := by
  induction s generalizing t with
  | base a =>
    cases t with
    | base b =>
      obtain ⟨letter, behind⟩ := List.cons.inj same
      exact ⟨congrArg _ (BaseType.letter_injective letter), behind⟩
    | object name => exact absurd (List.cons.inj same).1 a.letter_ne.1
    | array items => exact absurd (List.cons.inj same).1 a.letter_ne.2
  | object name =>
    cases t with
    | base b => exact absurd (List.cons.inj same).1.symm b.letter_ne.1
    | object another =>
      simp only [FieldType.written, List.cons_append, List.append_assoc, List.nil_append] at same
      obtain ⟨rfl, behind⟩ := ClassName.append_inj (List.cons.inj same).2
      exact ⟨rfl, behind⟩
    | array items => exact absurd (List.cons.inj same).1 (by decide)
  | array items ih =>
    cases t with
    | base b => exact absurd (List.cons.inj same).1.symm b.letter_ne.2
    | object name => exact absurd (List.cons.inj same).1 (by decide)
    | array others =>
      obtain ⟨rfl, behind⟩ := ih (List.cons.inj same).2
      exact ⟨rfl, behind⟩

/-- Parameter types and what is behind them are told from the text. -/
theorem flatMap_written_inj {types others : List FieldType}
    (same : types.flatMap FieldType.written ++ ')' :: rest = others.flatMap FieldType.written ++ ')' :: other) :
    types = others ∧ rest = other := by
  induction types generalizing others with
  | nil =>
    cases others with
    | nil => exact ⟨rfl, (List.cons.inj same).2⟩
    | cons type others =>
      obtain ⟨c, front, begins, different⟩ := written_cons type
      rw [List.flatMap_cons, begins] at same
      exact absurd (List.cons.inj same).1.symm different
  | cons type types ih =>
    cases others with
    | nil =>
      obtain ⟨c, front, begins, different⟩ := written_cons type
      rw [List.flatMap_cons, begins] at same
      exact absurd (List.cons.inj same).1 different
    | cons another others =>
      rw [List.flatMap_cons, List.flatMap_cons, List.append_assoc, List.append_assoc] at same
      obtain ⟨rfl, later⟩ := written_append_inj same
      obtain ⟨rfl, behind⟩ := ih later
      exact ⟨rfl, behind⟩

theorem Signature.written_injective : Function.Injective Signature.written := by
  intro s t same
  obtain ⟨parameters, returned⟩ := s
  obtain ⟨others, another⟩ := t
  obtain ⟨rfl, last⟩ := flatMap_written_inj (List.cons.inj same).2
  have last : returned.written ++ [] = another.written ++ [] := by rw [last]
  obtain ⟨rfl, -⟩ := written_append_inj last
  rfl

/-- A text is a descriptor exactly if it is written for a signature, which then is the only one. What is read
are the names of its types, in the order in which they stand, and every other text is refused. -/
theorem decode_reads (descriptor : String) :
    (∀ types, decode descriptor = .ok types ↔
      ∃ signature : Signature, signature.written = descriptor.toList ∧ signature.types = types) ∧
    (∀ signature another : Signature, signature.written = descriptor.toList →
      another.written = descriptor.toList → signature = another) ∧
    ((∀ signature : Signature, signature.written ≠ descriptor.toList) →
      ∃ cause, decode descriptor = .error cause) := by
  refine ⟨fun types => decode_eq_ok_iff, fun signature another here there => ?_, fun none => ?_⟩
  · exact Signature.written_injective (here.trans there.symm)
  · cases read : decode descriptor with
    | error cause => exact ⟨cause, rfl⟩
    | ok types =>
      obtain ⟨signature, written, -⟩ := decode_eq_ok_iff.mp read
      exact absurd written (none signature)

end JavaStubs.MethodDescriptor

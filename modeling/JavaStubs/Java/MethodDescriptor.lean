import JavaStubs.Java.Interface
import JavaStubs.Text.Quoted

/-!
Method descriptors of class files, such as `(I[Ljava/lang/String;)V`: the parameter types in
parentheses, then the return type. A type is a base letter or `L`, a binary name and a semicolon,
behind one bracket for each array dimension. `decode` reads exactly one descriptor and says of
any other text where and why it is none.
-/
namespace JavaStubs.MethodDescriptor

/-- Why a text is no method descriptor. -/
inductive Cause where
  /-- It does not begin with a parenthesis. -/
  | noDescriptor
  /-- It ends before the return type is complete. -/
  | truncated
  /-- No type begins at a place. -/
  | malformed (place : Nat)
  /-- A class name without its semicolon. -/
  | openClassName
  /-- Something follows the return type. -/
  | trailing
  deriving DecidableEq, Repr

/-- The wording of a cause for a text. -/
def Cause.message (descriptor : String) : Cause → String
  | .noDescriptor => s!"Not a method descriptor: {Text.quoted descriptor}"
  | .truncated => s!"Truncated method descriptor {Text.quoted descriptor}"
  | .malformed place => s!"Malformed type descriptor {Text.quoted descriptor} at {place}"
  | .openClassName => "substring not found"
  | .trailing => s!"Trailing data in method descriptor {Text.quoted descriptor}"

/-- The type of a base letter. -/
def baseType? : Char → Option String
  | 'B' => some "byte"
  | 'C' => some "char"
  | 'D' => some "double"
  | 'F' => some "float"
  | 'I' => some "int"
  | 'J' => some "long"
  | 'S' => some "short"
  | 'Z' => some "boolean"
  | 'V' => some "void"
  | _ => none

/-- The canonical name of a binary name: its separators become dots. -/
def canonicalName (binaryName : String) : String :=
  Text.replaced (fun c => c == '/' || c == '$') '.' binaryName

/-- The type at the head of a text, behind `dimensions` brackets already read, and the text after
it. A failure carries the number of characters left at the place of the fault. -/
def type? (dimensions : Nat) : List Char → Except (Nat → Cause) (TypeName × List Char)
  | [] => .error fun _ => .truncated
  | '[' :: rest => type? (dimensions + 1) rest
  | 'L' :: rest =>
    if rest.contains ';' then
      let name := canonicalName (String.ofList (rest.takeWhile (· != ';')))
      .ok (⟨name ++ Text.repeated "[]" dimensions⟩, (rest.dropWhile (· != ';')).drop 1)
    else .error fun _ => .openClassName
  | c :: rest =>
    match baseType? c with
    | some name => .ok (⟨name ++ Text.repeated "[]" dimensions⟩, rest)
    | none => .error fun size => .malformed (size - (rest.length + 1))

/-- A type leaves less text than it was read from. -/
theorem length_lt_of_type? {dimensions : Nat} {text rest : List Char} {type : TypeName}
    (h : type? dimensions text = .ok (type, rest)) : rest.length < text.length := by
  fun_induction type? dimensions text with
  | case1 => simp at h
  | case2 dimensions rest' ih => have := ih h; simp; omega
  | case3 dimensions rest' _ _ =>
    simp only [Except.ok.injEq, Prod.mk.injEq] at h
    obtain ⟨_, rfl⟩ := h
    have := (List.dropWhile_sublist (· != ';') (l := rest')).length_le
    simp; omega
  | case4 => simp at h
  | case5 dimensions c rest' _ _ name _ =>
    simp only [Except.ok.injEq, Prod.mk.injEq] at h
    obtain ⟨_, rfl⟩ := h
    simp
  | case6 => simp at h

/-- The types up to the closing parenthesis, after those in `done` (latest first), and the text
behind it. -/
def parameterTypes (done : List TypeName) (text : List Char) :
    Except (Nat → Cause) (List TypeName × List Char) :=
  match text with
  | [] => .error fun _ => .truncated
  | ')' :: rest => .ok (done.reverse, rest)
  | c :: rest =>
    match _h : type? 0 (c :: rest) with
    | .error cause => .error cause
    | .ok (type, rest) => parameterTypes (type :: done) rest
termination_by text.length
decreasing_by exact length_lt_of_type? _h

/-- The parameter types and the return type of a method descriptor. -/
def decode (descriptor : String) : Except Cause (List TypeName × TypeName) :=
  match descriptor.toList with
  | '(' :: rest =>
    let read := do
      let (parameters, rest) ← parameterTypes [] rest
      let (returned, rest) ← type? 0 rest
      if rest.isEmpty then .ok (parameters, returned) else .error fun _ => .trailing
    read.mapError fun cause => cause descriptor.length
  | _ => .error .noDescriptor

end JavaStubs.MethodDescriptor

import JavaStubs.Host.Format

/-!
Whole-number expressions. Numbers have 64 bits. Reading gives a tree (`Sum.read`), whose value is
computed with procedures that look variables up, set them, and complain. A text that is no expression
gives a tree, too, which ends where something is missing: what stands before is computed first.
-/
namespace JavaStubs.Shell

/-- A token of an expression. -/
inductive SumToken where
  | number (n : Int)
  | name (name : String)
  | sign (sign : String)
  | other
  deriving DecidableEq, Repr

/-- An expression. -/
inductive Sum where
  | number (n : Int)
  | variable (name : String)
  | unary (sign : String) (operand : Sum)
  | binary (sign : String) (first second : Sum)
  | both (first second : Sum)
  | either (first second : Sum)
  | choice (test first second : Sum)
  /-- Sets a variable to a value, or to what an operator makes of the old value and that one. -/
  | assign (name : String) (sign : Option String) (value : Sum)
  /-- Something is missing behind an expression. -/
  | broken (before : Sum) (message : String)
  deriving DecidableEq, Repr

namespace Sum

/-- The number of 64 bits that a number is, where bits beyond those are lost. -/
def wrapped (n : Int) : Int :=
  let low := n % Nat.pow 2 64
  if low < Nat.pow 2 63 then low else low - Nat.pow 2 64

def clamped (n : Int) : Int := max (-(Nat.pow 2 63)) (min n (Nat.pow 2 63 - 1))

/-! ## Reading -/

/-- The number without a sign at the start of a text, and the text behind it. A zero in front stands
for base eight, and one with an x for base sixteen. -/
def numberAt (text : List Char) : Nat × List Char :=
  let based (base : Nat) (text : List Char) :=
    let (n, _, rest) := Host.leadingNumber base text.length 0 0 text
    (n, rest)
  match text with
  | '0' :: x :: c :: rest =>
    if (x == 'x' || x == 'X') && (Host.digitValue? c).isSome then based 16 (c :: rest)
    else based 8 text
  | '0' :: _ => based 8 text
  | _ => based 10 text

/-- The signs, the longer ones before those that they begin with. -/
def signs : List String :=
  ["<<=", ">>=", "<<", ">>", "<=", ">=", "==", "!=", "&&", "||", "*=", "/=", "%=", "+=", "-=", "&=",
    "^=", "|=", "*", "/", "%", "+", "-", "<", ">", "=", "!", "~", "&", "^", "|", "?", ":", "(", ")"]

/-- The tokens of a text; `fuel` is at least its length. -/
def tokens : Nat → List Char → List SumToken
  | 0, _ => []
  | _, [] => []
  | fuel + 1, c :: rest =>
    if c == ' ' || c == '\t' || c == '\n' then tokens fuel rest
    else if c.isDigit then
      let (n, rest) := numberAt (c :: rest)
      .number (clamped n) :: tokens fuel rest
    else if c == '_' || c.isAlpha then
      let isPart (c : Char) := c == '_' || c.isAlphanum
      .name (String.ofList (c :: rest.takeWhile isPart)) :: tokens fuel (rest.dropWhile isPart)
    else match signs.find? fun sign => sign.toList.isPrefixOf (c :: rest) with
      | some sign => .sign sign :: tokens fuel ((c :: rest).drop sign.length)
      | none => .other :: tokens fuel rest

/-- The operators with two operands, those that bind least first. -/
def levels : List (List String) :=
  [["|"], ["^"], ["&"], ["==", "!="], ["<", "<=", ">", ">="], ["<<", ">>"], ["+", "-"],
    ["*", "/", "%"]]

/-- The signs that stand in front of an operand. -/
def unarySigns : List String := ["+", "-", "!", "~"]

/-- The operator of an assignment, none for the plain one. -/
def assignmentSign? (sign : String) : Option (Option String) :=
  if sign == "=" then some none
  else if ["*=", "/=", "%=", "+=", "-=", "<<=", ">>=", "&=", "^=", "|="].contains sign then
    some (some (String.ofList sign.toList.dropLast))
  else none

/-- A reading of an expression: the expression, and the tokens behind it unless it is broken. -/
abbrev Taken := Sum × List SumToken

def missing (message : String) (before : Sum) : Taken := (.broken before message, [])

/-- Goes on with operators of one kind as long as there are some. -/
def chained (operand : List SumToken → Taken) (isSign : String → Bool)
    (join : String → Sum → Sum → Sum) : Nat → Sum → List SumToken → Taken
  | fuel + 1, first, .sign sign :: rest =>
    if isSign sign then
      let (second, rest) := operand rest
      chained operand isSign join fuel (join sign first second) rest
    else (first, .sign sign :: rest)
  | _, first, tokens => (first, tokens)

/-- The operand at the start of tokens, with the signs in front of it; `inner` reads what stands in
parentheses. -/
def operandAt (inner : List SumToken → Taken) : Nat → List SumToken → Taken
  | fuel + 1, .sign sign :: rest =>
    if sign == "(" then
      match inner rest with
      | (value, .sign ")" :: rest) => (value, rest)
      | (value, _) => missing "expecting ')'" value
    else if unarySigns.contains sign then
      let (operand, rest) := operandAt inner fuel rest
      (if sign == "+" then operand else .unary sign operand, rest)
    else missing "expecting primary" (.number 0)
  | _, .number n :: rest => (.number n, rest)
  | _, .name name :: rest => (.variable name, rest)
  | _, _ => missing "expecting primary" (.number 0)

/-- What is read of operators of given levels. -/
def levelAt (operand : List SumToken → Taken) : List (List String) → List SumToken → Taken
  | [], tokens => operand tokens
  | signs :: more, tokens =>
    let (first, rest) := levelAt operand more tokens
    chained (levelAt operand more) signs.contains .binary rest.length first rest

/-- The expression at the start of tokens; `fuel` bounds its depth. -/
def readFrom : Nat → List SumToken → Taken
  | 0, _ => missing "expecting primary" (.number 0)
  | fuel + 1, tokens =>
    let plain (tokens : List SumToken) : Taken :=
      let operand (tokens : List SumToken) := operandAt (readFrom fuel) tokens.length tokens
      let joined (operand : List SumToken → Taken) (sign : String) (join : Sum → Sum → Sum)
          (tokens : List SumToken) : Taken :=
        let (first, rest) := operand tokens
        chained operand (· == sign) (fun _ => join) rest.length first rest
      let (test, rest) := joined (joined (levelAt operand levels) "&&" .both) "||" .either tokens
      match rest with
      | .sign "?" :: rest =>
        match readFrom fuel rest with
        | (first, .sign ":" :: rest) =>
          let (second, rest) := readFrom fuel rest
          (.choice test first second, rest)
        | (first, _) => missing "expecting ':'" (.choice test first (.number 0))
      | rest => (test, rest)
    match tokens with
    | .name name :: .sign sign :: rest =>
      match assignmentSign? sign with
      | some operator =>
        let (value, rest) := readFrom fuel rest
        (.assign name operator value, rest)
      | none => plain tokens
    | tokens => plain tokens

def read (text : String) : Sum :=
  let tokens := tokens (text.length + 1) text.toList
  match readFrom (tokens.length + 2) tokens with
  | (value, []) => value
  | (value, _) => .broken value "expecting EOF"

/-! ## Values -/

def ofBool (truth : Bool) : Int := if truth then 1 else 0

def bitwise (join : Bool → Bool → Bool) (a b : Int) : Int :=
  let bits (n : Int) : BitVec 64 := BitVec.ofInt 64 n
  let joined := (List.range 64).foldl (fun (value : Int) place =>
    value + if join ((bits a).getLsbD place) ((bits b).getLsbD place) then Nat.pow 2 place else 0) 0
  wrapped joined

/-- What an operator makes of two numbers; nothing if that is a division by zero. -/
def combined (sign : String) (a b : Int) : Option Int :=
  match sign with
  | "*" => some (wrapped (a * b))
  | "/" => if b = 0 then none else some (wrapped (Int.tdiv a b))
  | "%" => if b = 0 then none else some (Int.tmod a b)
  | "+" => some (wrapped (a + b))
  | "-" => some (wrapped (a - b))
  | "<<" => some (wrapped (a * Nat.pow 2 (b % 64).toNat))
  | ">>" => some (Int.fdiv a (Nat.pow 2 (b % 64).toNat))
  | "<" => some (ofBool (a < b))
  | "<=" => some (ofBool (a ≤ b))
  | ">" => some (ofBool (b < a))
  | ">=" => some (ofBool (b ≤ a))
  | "==" => some (ofBool (a = b))
  | "!=" => some (ofBool (a ≠ b))
  | "&" => some (bitwise (· && ·) a b)
  | "^" => some (bitwise (· != ·) a b)
  | _ => some (bitwise (· || ·) a b)

/-- Procedures for variables and for errors. -/
structure Access (m : Type → Type) where
  get : String → m Int
  set : String → Int → m Unit
  fail : String → m Int

/-- What is missing in an expression. -/
def fault? : Sum → Option String
  | .number _ => none
  | .variable _ => none
  | .unary _ operand => fault? operand
  | .binary _ first second => (fault? first).or (fault? second)
  | .both first second => (fault? first).or (fault? second)
  | .either first second => (fault? first).or (fault? second)
  | .choice test first second => ((fault? test).or (fault? first)).or (fault? second)
  | .assign _ _ operand => fault? operand
  | .broken before message => (fault? before).or (some message)

/-- The value of an expression. Of a choice only what is chosen has a value; nothing must be missing in
the rest. -/
def value {m : Type → Type} [Monad m] (access : Access m) : Sum → m Int
  | .number n => return n
  | .variable name => access.get name
  | .unary sign operand => do
    let n ← value access operand
    return match sign with
      | "-" => wrapped (-n)
      | "!" => ofBool (n = 0)
      | _ => -n - 1
  | .binary sign first second => do
    let a ← value access first
    let b ← value access second
    match combined sign a b with
    | some n => return n
    | none => access.fail "division by zero"
  | .both first second => do
    if (← value access first) = 0 then skipped access second 0
    else return ofBool ((← value access second) ≠ 0)
  | .either first second => do
    if (← value access first) ≠ 0 then skipped access second 1
    else return ofBool ((← value access second) ≠ 0)
  | .choice test first second => do
    if (← value access test) ≠ 0 then
      let n ← value access first
      skipped access second n
    else
      let _ ← skipped access first 0
      value access second
  | .broken before message => do
    let _ ← value access before
    access.fail message
  | .assign name sign operand => do
    let new ← value access operand
    let n? ← match sign with
      | none => pure (some new)
      | some sign => do pure (combined sign (← access.get name) new)
    match n? with
    | some n =>
      access.set name n
      return n
    | none => access.fail "division by zero"
where
  /-- A number, unless something is missing in an expression that has no value. -/
  skipped {m : Type → Type} [Monad m] (access : Access m) (expression : Sum) (n : Int) : m Int :=
    match fault? expression with
    | some message => access.fail message
    | none => return n

end Sum
end JavaStubs.Shell

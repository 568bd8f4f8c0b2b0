import JavaStubs.Records.Tokens

/-!
Reading the expressions of scripts that work on records. Operators bind in levels; each level is read by
means of the one that binds closer, and whole expressions in parentheses by means of `inner`.
-/
namespace JavaStubs.Records

/-- A call of a function, which is checked when all functions are known. -/
structure FoundCall where
  name : String
  count : Nat
  line : Nat

/-- Why a script is refused. -/
structure ScriptFault where
  messages : List String
  /-- The number of tokens that were left. -/
  left : Nat

/-- Where the reading of a script stands. -/
structure Reading where
  tokens : List (Token × Nat)
  /-- The number of the last line. -/
  lastLine : Nat
  /-- The names of all functions. -/
  functions : List String
  /-- The names of the present function's own variables. -/
  own : List String := []
  /-- The parentheses and braces that are open. -/
  parens : Nat := 0
  braces : Nat := 0
  /-- Whether the end of the last line was taken. -/
  isPastEnd : Bool := false
  /-- Whether a mark for a file ends what is printed. -/
  isPrinting : Bool := false
  loops : Nat := 0
  inFunction : Bool := false
  /-- Whether there is a record. -/
  hasRecord : Bool := false
  calls : List FoundCall := []
  /-- The shared variables, with whether they are tables. -/
  kinds : List (String × Bool) := []

/-- A part of reading. -/
abbrev Parse := StateT Reading (Except ScriptFault)

namespace Parse

/-- The next token; behind the last one there is the end of a line. -/
def peek : Parse Token := return ((← get).tokens.head?.map Prod.fst).getD .newline

def isAtEnd : Parse Bool := return (← get).tokens.isEmpty

def line : Parse Nat := do
  let reading ← get
  return (reading.tokens.head?.map Prod.snd).getD reading.lastLine

/-- Takes the next token. -/
def take : Parse Token :=
  modifyGet fun reading =>
    let token := (reading.tokens.head?.map Prod.fst).getD .newline
    let (parens, braces) := match token with
      | .mark "(" => (reading.parens + 1, reading.braces)
      | .mark ")" => (reading.parens - 1, reading.braces)
      | .mark "\x7b" => (reading.parens, reading.braces + 1)
      | .mark "\x7d" => (reading.parens, reading.braces - 1)
      | _ => (reading.parens, reading.braces)
    (token, { reading with tokens := reading.tokens.drop 1, parens, braces })

def stop {α : Type} (messages : List String) : Parse α := do
  throw ⟨messages, (← get).tokens.length⟩

/-- Refuses a script for a reason that belongs to a line. -/
def refuse {α : Type} (message : String) : Parse α := do stop [s!"line {← line}: {message}"]

/-- Refuses a script that ends too early. -/
def failAtEnd {α : Type} : Parse α := do
  let reading ← get
  let next := reading.lastLine + 1
  let missing := s!"line {next}: missing \x7d near end of file"
  let reason := if 0 < reading.parens then "missing )" else "syntax error at or"
  let first := s!"line {reading.lastLine}: {reason} near end of line"
  if reading.isPastEnd then
    stop [if 0 < reading.braces then missing else s!"line {next}: syntax error at or near end of file"]
  else stop (first :: if 0 < reading.braces then [missing] else [])

/-- Refuses the next token. -/
def fail {α : Type} : Parse α := do
  let reading ← get
  match reading.tokens with
  | (.fault message, _) :: _ => stop [message]
  | [] => failAtEnd
  | (token, _) :: _ =>
    let ends : Bool := match token with
      | .newline => true
      | .mark mark => mark == "\x7d" || mark == ";"
      | _ => false
    if 0 < reading.parens && ends then refuse s!"missing ) near {token.shown}"
    else refuse s!"syntax error at or near {token.shown}"

/-- Whether the next token is a mark. -/
def isMark (mark : String) : Parse Bool := do
  match ← peek with
  | .mark found => return found == mark
  | _ => return false

/-- Whether the next token is a word. -/
def isWord (word : String) : Parse Bool := do
  match ← peek with
  | .word found => return found == word
  | _ => return false

/-- Takes a mark that has to be there. -/
def mark (mark : String) : Parse Unit := do
  if ← isMark mark then let _ ← take else fail

/-- Takes a mark if it is there. -/
def markIf (mark : String) : Parse Bool := do
  if ← isMark mark then
    let _ ← take
    return true
  return false

/-- Takes the ends of lines; `fuel` bounds their number. -/
def newlinesUpTo : Nat → Parse Unit
  | 0 => return
  | fuel + 1 => do
    match (← get).tokens with
    | (.newline, _) :: _ =>
      let _ ← take
      newlinesUpTo fuel
    | _ => return

def newlines : Parse Unit := do
  newlinesUpTo (← get).tokens.length
  if ← isAtEnd then modify fun reading => { reading with isPastEnd := true }

/-- What is read where a mark for a file has a meaning of its own, or where it has not. -/
def printing {α : Type} (isPrinting : Bool) (parse : Parse α) : Parse α := do
  let before := (← get).isPrinting
  modify fun reading => { reading with isPrinting }
  let result ← parse
  modify fun reading => { reading with isPrinting := before }
  return result

/-! ## Variables -/

/-- The names of shared variables that are no tables. -/
def scalarNames : List String :=
  ["NF", "NR", "FNR", "FS", "OFS", "ORS", "RS", "SUBSEP", "CONVFMT", "OFMT", "FILENAME", "RSTART",
    "RLENGTH", "ARGC"]

/-- The names of shared variables that are tables. -/
def tableNames : List String := ["ENVIRON", "ARGV"]

def variableOf (name : String) : Parse Variable := do
  match (← get).own.idxOf? name with
  | some place => return .own place
  | none => return .shared name

/-- The variable of a name that is used as a table, or as one that is none. -/
def usedVariable (isTable : Bool) (name : String) : Parse Variable := do
  match ← variableOf name with
  | .own place => return .own place
  | .shared name =>
    match (← get).kinds.lookup name with
    | some known =>
      if known != isTable then
        let kind := if known then "array" else "variable"
        refuse s!"illegal reference to {kind} {name}"
    | none => modify fun reading => { reading with kinds := (name, isTable) :: reading.kinds }
    return .shared name

def tableName : Parse Variable := do
  match ← peek with
  | .name name _ =>
    let variable_ ← usedVariable true name
    let _ ← take
    return variable_
  | _ => fail

/-! ## Lists -/

/-- Expressions with commas between them; `fuel` bounds their number. -/
def listFrom (inner : Parse Expr) : Nat → Parse (List Expr)
  | 0 => fail
  | fuel + 1 => do
    let first ← inner
    if ← markIf "," then
      newlines
      return first :: (← listFrom inner fuel)
    return [first]

def list (inner : Parse Expr) : Parse (List Expr) := do listFrom inner ((← get).tokens.length + 1)

/-- What an operator makes of two expressions that it stands between; those in front bind first. A line
may end behind an operator that `wraps`, and `fuel` bounds the number of operators. -/
def chain (wraps : Bool) (operator : Token → Option (Expr → Expr → Expr)) (operand : Parse Expr) :
    Nat → Expr → Parse Expr
  | 0, first => return first
  | fuel + 1, first => do
    match operator (← peek) with
    | none => return first
    | some combine =>
      let _ ← take
      if wraps then newlines
      let second ← operand
      chain wraps operator operand fuel (combine first second)

def level (wraps : Bool) (operator : Token → Option (Expr → Expr → Expr)) (operand : Parse Expr) :
    Parse Expr := do
  let first ← operand
  chain wraps operator operand (← get).tokens.length first

/-! ## Expressions that bind closest -/

/-- What an argument of a function may be: a name alone may be that of a table. -/
def argument (inner : Parse Expr) : Parse Expr := do
  match (← get).tokens with
  | (.name name _, _) :: (.mark mark, _) :: _ =>
    if mark == "," || mark == ")" then
      let _ ← take
      return .variable (← variableOf name)
    inner
  | _ => inner

def arguments (inner : Parse Expr) : Parse (List Expr) := do
  mark "("
  newlines
  let found ← if ← isMark ")" then pure [] else printing false (list (argument inner))
  newlines
  mark ")"
  return found

/-- The number of arguments that a function takes at least and at most. -/
def arity : Builtin → Nat × Nat
  | .length => (0, 1)
  | .substr => (2, 3)
  | .index => (2, 2)
  | .split => (2, 3)
  | .sub => (2, 3)
  | .gsub => (2, 3)
  | .match_ => (2, 2)
  | .sprintf => (1, 1000000)
  | .atan2 => (2, 2)
  | .rand => (0, 0)
  | .srand => (0, 1)
  | .fflush => (0, 1)
  | _ => (1, 1)

/-- A call of a function that is built in. -/
def builtinCall (inner : Parse Expr) (function : Builtin) (name : String) : Parse Expr := do
  if !(← isMark "(") then
    if function = .length then return .builtin .length []
    fail
  let found ← arguments inner
  let (least, most) := arity function
  if found.length < least || most < found.length then
    refuse s!"wrong number of arguments in call to {name}"
  match function, found with
  | .split, _ :: .variable (.shared table) :: _ =>
    let _ ← usedVariable true table
  | .split, _ :: .variable _ :: _ => pure ()
  | .split, _ => fail
  | _, [_, _, target] =>
    if (function = .sub || function = .gsub) && !target.isTarget then fail
  | _, _ => pure ()
  return .builtin function found

/-- A variable, an element of a table, or a call. -/
def named (inner : Parse Expr) (name : String) (calls : Bool) : Parse Expr := do
  let reading ← get
  if (calls || (reading.functions.contains name && (← isMark "("))) && !reading.own.contains name then
    let line ← line
    let found ← arguments inner
    modify fun reading => { reading with calls := reading.calls ++ [⟨name, found.length, line⟩] }
    return .call name found
  if ← isMark "[" then
    let table ← usedVariable true name
    let _ ← take
    let keys ← printing false (list inner)
    mark "]"
    return .element table keys
  return .variable (← usedVariable false name)

/-- Something in parentheses: an expression, or the keys of an element. -/
def grouped (inner : Parse Expr) : Parse Expr := do
  mark "("
  newlines
  let found ← printing false (list inner)
  newlines
  mark ")"
  match found with
  | [single] => return .group single
  | keys =>
    if ← isWord "in" then
      let _ ← take
      return .isKey keys (← tableName)
    fail

/-- An expression that values can be set to, if there is one; `fuel` bounds the depth. -/
def target? (inner : Parse Expr) (field : Parse Expr) : Parse (Option Expr) := do
  match ← peek with
  | .name name calls =>
    if calls then return none
    let _ ← take
    return some (← named inner name false)
  | .mark "$" => return some (← field)
  | _ => return none

/-- An expression without operators around it; `fuel` bounds the number of marks in front of one. -/
def primary (inner : Parse Expr) : Nat → Parse Expr
  | 0 => fail
  | fuel + 1 => do
    match ← peek with
    | .number x _ => do
      let _ ← take
      return .number x
    | .text chars => do
      let _ ← take
      return .text chars
    | .regex chars => do
      let _ ← take
      return .pattern chars
    | .mark "(" => grouped inner
    | .mark "$" => do
      let _ ← take
      return .field (← fieldNumber (primary inner fuel))
    | .mark "++" => counted (primary inner fuel) true
    | .mark "--" => counted (primary inner fuel) false
    | .builtin function name => do
      let _ ← take
      builtinCall inner function name
    | .name name calls => do
      let _ ← take
      named inner name calls
    | .word "getline" => do
      let _ ← take
      let target ← target? inner (primary inner fuel)
      if ← markIf "<" then return .readFile target (← primary inner fuel)
      return .readNext target
    | _ => fail
where
  /-- What is counted up or down first. -/
  counted (operand : Parse Expr) (up : Bool) : Parse Expr := do
    let _ ← take
    let found ← operand
    if !found.isTarget then fail
    return .count found up false
  /-- The number of a field. -/
  fieldNumber (operand : Parse Expr) : Parse Expr := do
    match ← peek with
    | .mark "-" => do
      let _ ← take
      return .negate (← operand)
    | .mark "+" => do
      let _ ← take
      return .positive (← operand)
    | .mark "!" => do
      let _ ← take
      return .not (← operand)
    | _ => operand

/-- The field in parentheses that may be counted, as it is. -/
def countable? : Expr → Option Expr
  | .group (.field number) => some (.field number)
  | found => if found.isTarget then some found else none

/-- An expression that may be counted up or down. -/
def postfixed (inner : Parse Expr) : Parse Expr := do
  let found ← primary inner ((← get).tokens.length + 1)
  match countable? found, ← peek with
  | some target, .mark "++" => do
    let _ ← take
    return .count target true true
  | some target, .mark "--" => do
    let _ ← take
    return .count target false true
  | _, _ => return found

/-- A power, whose exponent may have a sign; `fuel` bounds the number of exponents. -/
def powered (inner : Parse Expr) : Nat → Parse Expr
  | 0 => fail
  | fuel + 1 => do
    let base ← postfixed inner
    if ← markIf "^" then return .operate .power base (← signed (powered inner fuel) fuel)
    return base
where
  /-- An exponent with signs in front. -/
  signed (operand : Parse Expr) : Nat → Parse Expr
    | 0 => operand
    | fuel + 1 => do
      if ← markIf "-" then return .negate (← signed operand fuel)
      if ← markIf "+" then return .positive (← signed operand fuel)
      if ← markIf "!" then return .not (← signed operand fuel)
      operand

/-- What is read from commands; `fuel` bounds the number of times. -/
def pipedFrom (inner : Parse Expr) : Nat → Expr → Parse Expr
  | 0, first => return first
  | fuel + 1, first => do
    match (← get).tokens with
    | (.mark "|", _) :: (.word "getline", _) :: _ =>
      if (← get).isPrinting then return first
      let _ ← take
      let _ ← take
      let target ← target? inner (postfixed inner)
      pipedFrom inner fuel (.readCommand target first)
    | _ => return first

/-- An expression from which a command may be read. -/
def piped (inner : Parse Expr) : Parse Expr := do
  let count := (← get).tokens.length
  let first ← powered inner (count + 1)
  pipedFrom inner count first

/-- An expression with signs in front; `fuel` bounds their number. -/
def unary (inner : Parse Expr) : Nat → Parse Expr
  | 0 => fail
  | fuel + 1 => do
    if ← markIf "!" then return .not (← unary inner fuel)
    if ← markIf "-" then return .negate (← unary inner fuel)
    if ← markIf "+" then return .positive (← unary inner fuel)
    piped inner

/-! ## Operators -/

/-- A product, a quotient or a remainder. -/
def product (inner : Parse Expr) : Parse Expr := do
  level false (fun
    | .mark "*" => some (.operate .mul)
    | .mark "/" => some (.operate .div)
    | .mark "%" => some (.operate .remainder)
    | _ => none) (do unary inner ((← get).tokens.length + 1))

def sum_ (inner : Parse Expr) : Parse Expr :=
  level false (fun
    | .mark "+" => some (.operate .add)
    | .mark "-" => some (.operate .sub)
    | _ => none) (product inner)

/-- Whether a token begins an expression that is joined to one in front. -/
def beginsJoined : Token → Bool
  | .number _ _ => true
  | .text _ => true
  | .regex _ => true
  | .name _ _ => true
  | .builtin _ _ => true
  | .mark chars => ["$", "!", "(", "++", "--"].contains chars
  | _ => false

/-- Texts joined to one in front; `fuel` bounds their number. -/
def joinedFrom (inner : Parse Expr) : Nat → Expr → Parse Expr
  | 0, first => return first
  | fuel + 1, first => do
    if !beginsJoined (← peek) then return first
    let second ← sum_ inner
    joinedFrom inner fuel (.join first second)

def assignments : List (String × Option Operation) :=
  [("=", none), ("+=", some .add), ("-=", some .sub), ("*=", some .mul), ("/=", some .div),
    ("%=", some .remainder), ("^=", some .power)]

/-- Joined texts, or a value that is set. -/
def joined (inner : Parse Expr) : Parse Expr := do
  let first ← sum_ inner
  match countable? first, ← peek with
  | some target, .mark chars =>
    match assignments.lookup chars with
    | some operation =>
      let _ ← take
      newlines
      return .assign target operation (← inner)
    | none => joinedFrom inner (← get).tokens.length first
  | _, _ => joinedFrom inner (← get).tokens.length first

def comparisons : List (String × Comparison) :=
  [("==", .equal), ("!=", .unequal), ("<", .less), ("<=", .lessOrEqual), (">", .greater),
    (">=", .greaterOrEqual)]

def compared (inner : Parse Expr) : Parse Expr := do
  let isPrinting := (← get).isPrinting
  level false (fun
    | .mark chars =>
      if isPrinting && chars == ">" then none
      else (comparisons.lookup chars).map fun comparison => .compare comparison
    | _ => none) (joined inner)

/-- A text that is to fit a pattern. -/
def fitted (inner : Parse Expr) : Parse Expr :=
  level false (fun
    | .mark "~" => some (.fits false)
    | .mark "!~" => some (.fits true)
    | _ => none) (compared inner)

/-- Keys that are looked for in tables; `fuel` bounds their number. -/
def soughtFrom : Nat → Expr → Parse Expr
  | 0, first => return first
  | fuel + 1, first => do
    if !(← isWord "in") then return first
    let _ ← take
    soughtFrom fuel (.isKey [first] (← tableName))

/-- A key that is looked for in a table. -/
def sought (inner : Parse Expr) : Parse Expr := do
  let first ← fitted inner
  soughtFrom (← get).tokens.length first

/-- What is true if both of two expressions are. -/
def both (inner : Parse Expr) : Parse Expr :=
  level true (fun
    | .mark "&&" => some .and
    | _ => none) (sought inner)

/-- What is true if one of two expressions is. -/
def either (inner : Parse Expr) : Parse Expr :=
  level true (fun
    | .mark "||" => some .or
    | _ => none) (both inner)

/-- A choice of two expressions, or another expression. -/
def chosen (inner : Parse Expr) : Parse Expr := do
  let condition ← either inner
  if !(← markIf "?") then return condition
  newlines
  let first ← inner
  newlines
  mark ":"
  newlines
  return .choose condition first (← inner)

def exprTo : Nat → Parse Expr
  | 0 => fail
  | depth + 1 => chosen (exprTo depth)

def expr : Parse Expr := do exprTo ((← get).tokens.length + 1)

end Parse
end JavaStubs.Records

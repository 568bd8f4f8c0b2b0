import JavaStubs.Records.ExprReader

namespace JavaStubs.Records
namespace Parse

/-- Takes the end of a statement. -/
def statementEnd : Parse Unit := do
  match (← get).tokens with
  | (.newline, _) :: _ => newlines
  | (.mark ";", _) :: _ => do
    let _ ← take
    newlines
  | (.mark "\x7d", _) :: _ => return
  | [] =>
    newlines
    if 0 < (← get).braces then fail
  | _ => fail

/-- Whether nothing more is printed by a statement. -/
def endsPrinting : Token → Bool
  | .newline => true
  | .mark chars => [";", "\x7d", ">", ">>", "|"].contains chars
  | _ => false

/-- The values that are printed: in parentheses, or without. -/
def printed : Parse (List Expr) := do
  if endsPrinting (← peek) then return []
  let plain : Parse (List Expr) := printing true (list expr)
  if !(← isMark "(") then return ← plain
  let before ← get
  let attempt : Parse (List Expr) := do
    mark "("
    newlines
    let found ← printing false (list expr)
    newlines
    mark ")"
    if endsPrinting (← peek) then return found
    fail
  match attempt.run before with
  | .ok (found, after) =>
    set after
    return found
  | .error _ => plain

def sink : Parse (Option Sink) := do
  if ← markIf ">" then return some (.replace (← expr))
  if ← markIf ">>" then return some (.append (← expr))
  if ← markIf "|" then return some (.command (← expr))
  return none

/-- Whether a statement goes without the expression that it may have. -/
def goesWithout : Token → Bool
  | .newline => true
  | .mark chars => chars == ";" || chars == "\x7d"
  | _ => false

/-- The expression of a statement, if there is one. -/
def exprIf : Parse (Option Expr) := do
  if goesWithout (← peek) then return none
  return some (← expr)

/-- Statements up to the closing brace, which is taken, too; `fuel` bounds their number. -/
def blockFrom (inner : Parse Stmt) : Nat → Parse (List Stmt)
  | 0 => fail
  | fuel + 1 => do
    if ← markIf "\x7d" then return []
    let first ← inner
    return first :: (← blockFrom inner fuel)

def block (inner : Parse Stmt) : Parse Stmt := do
  mark "\x7b"
  newlines
  return .block (← blockFrom inner ((← get).tokens.length + 1))

def condition : Parse Expr := do
  mark "("
  let found ← printing false expr
  mark ")"
  return found

def looping (inner : Parse Stmt) : Parse Stmt := do
  modify fun reading => { reading with loops := reading.loops + 1 }
  let body ← inner
  modify fun reading => { reading with loops := reading.loops - 1 }
  return body

/-- A loop with a start, a condition and a step, or one for the keys of a table. -/
def forLoop (inner : Parse Stmt) : Parse Stmt := do
  mark "("
  match (← get).tokens with
  | (.name key _, _) :: (.word "in", _) :: (.name table _, _) :: (.mark ")", _) :: _ => do
    let key ← usedVariable false key
    let _ ← take
    let _ ← take
    let table ← usedVariable true table
    let _ ← take
    mark ")"
    newlines
    return .forKeys key table (← looping inner)
  | _ => do
    let start ← exprIf
    mark ";"
    newlines
    let found ← exprIf
    mark ";"
    newlines
    let next ← if ← isMark ")" then pure none else (do return some (← expr))
    mark ")"
    newlines
    return .for_ start found next (← looping inner)

/-- A statement by its first word. -/
def worded (inner : Parse Stmt) (word : String) : Parse Stmt := do
  let _ ← take
  match word with
  | "if" => do
    let found ← condition
    newlines
    let yes ← inner
    if !(← isWord "else") then return .if_ found yes none
    let _ ← take
    newlines
    return .if_ found yes (some (← inner))
  | "while" => do
    let found ← condition
    if ← markIf ";" then
      newlines
      return .while_ found .nothing
    newlines
    return .while_ found (← looping inner)
  | "do" => do
    newlines
    let body ← looping inner
    if !(← isWord "while") then fail
    let _ ← take
    let found ← condition
    statementEnd
    return .doWhile body found
  | "for" => forLoop inner
  | "print" => do
    let values ← printed
    let found ← sink
    statementEnd
    return .print values found
  | "printf" => do
    let values ← printed
    if values.isEmpty then refuse "no arguments in call to printf"
    let found ← sink
    statementEnd
    return .printf values found
  | "break" => do
    if (← get).loops = 0 then refuse "break statement outside of loop"
    statementEnd
    return .break_
  | "continue" => do
    if (← get).loops = 0 then refuse "continue statement outside of loop"
    statementEnd
    return .continue_
  | "next" => do
    if !(← get).hasRecord then refuse "improper use of next"
    statementEnd
    return .next
  | "nextfile" => do
    if !(← get).hasRecord then refuse "improper use of nextfile"
    statementEnd
    return .nextFile
  | "exit" => do
    let code ← exprIf
    statementEnd
    return .exit code
  | "return" => do
    if !(← get).inFunction then refuse "return outside function body"
    let value ← exprIf
    statementEnd
    return .return_ value
  | "delete" => do
    let table ← tableName
    if !(← markIf "[") then
      statementEnd
      return .clear table
    let keys ← list expr
    mark "]"
    statementEnd
    return .delete table keys
  | _ => fail

/-- A statement, by means of those inside it. -/
def statementOf (inner : Parse Stmt) : Parse Stmt := do
  match ← peek with
  | .mark "\x7b" => do
    let found ← block inner
    newlines
    return found
  | .mark ";" => do
    let _ ← take
    newlines
    return .nothing
  | .mark "\x7d" => return .nothing
  | .word "getline" => valueStatement
  | .word word =>
    if ["BEGIN", "END", "else", "in", "function"].contains word then fail else worded inner word
  | _ => valueStatement
where
  /-- A value that is only worked out. -/
  valueStatement : Parse Stmt := do
    let found ← expr
    statementEnd
    return .value found

def statementTo : Nat → Parse Stmt
  | 0 => fail
  | depth + 1 => statementOf (statementTo depth)

def body : Parse Stmt := do
  let found ← block (statementTo ((← get).tokens.length + 1))
  let _ ← markIf ";"
  return found

/-! ## Rules and functions -/

/-- The names of a function's own variables, of which some are `known`; `fuel` bounds their number. -/
def ownNames : Nat → List String → Parse (List String)
  | 0, _ => fail
  | fuel + 1, known => do
    match ← peek with
    | .name name _ => do
      if known.contains name then refuse s!"{name} is duplicated in argument list"
      let _ ← take
      if ← markIf "," then
        newlines
        return name :: (← ownNames fuel (name :: known))
      return [name]
    | _ => fail

/-- A function behind its word; `known` are the names of those in front. -/
def function (known : List String) : Parse Function := do
  match ← peek with
  | .name name _ => do
    if scalarNames.contains name then refuse s!"illegal reference to variable {name}"
    if known.contains name then refuse s!"redefinition of {name}"
    let _ ← take
    mark "("
    let own ← if ← isMark ")" then pure [] else ownNames ((← get).tokens.length + 1) []
    mark ")"
    newlines
    modify fun reading => { reading with own, inFunction := true }
    let found ← body
    modify fun reading => { reading with own := [], inFunction := false }
    return ⟨name, own.length, found⟩
  | _ => fail

/-- A script with what follows added; `fuel` bounds the number of rules and functions. -/
def scriptFrom : Nat → Script → Parse Script
  | 0, script => return script
  | fuel + 1, script => do
    newlines
    if ← isAtEnd then return script
    match ← peek with
    | .word "BEGIN" => do
      let _ ← take
      if !(← isMark "\x7b") then fail
      let found ← body
      scriptFrom fuel { script with starts := script.starts ++ [found] }
    | .word "END" => do
      let _ ← take
      if !(← isMark "\x7b") then fail
      let found ← body
      scriptFrom fuel { script with ends := script.ends ++ [found] }
    | .word "function" => do
      let _ ← take
      let found ← function (script.functions.map Function.name)
      scriptFrom fuel { script with functions := script.functions ++ [found] }
    | _ => do
      modify fun reading => { reading with hasRecord := true }
      let condition ← if ← isMark "\x7b" then pure .always else ruleCondition
      let found ← if ← isMark "\x7b" then (do return some (← body)) else ruleEnd
      modify fun reading => { reading with hasRecord := false }
      scriptFrom fuel { script with rules := script.rules ++ [⟨condition, found⟩] }
where
  /-- For which records a rule does something. -/
  ruleCondition : Parse Condition := do
    let first ← expr
    if ← markIf "," then
      newlines
      return .between first (← expr)
    return .fits first
  /-- The end of a rule without a block. -/
  ruleEnd : Parse (Option Stmt) := do
    match (← get).tokens with
    | [] => return none
    | (.newline, _) :: _ => return none
    | (.mark ";", _) :: _ => do
      let _ ← take
      return none
    | _ => fail

end Parse

namespace Script

/-- The names of the functions of a script, by its tokens. -/
def functionNames : List (Token × Nat) → List String
  | (.word "function", _) :: (.name name calls, line) :: rest =>
    name :: functionNames ((.name name calls, line) :: rest)
  | _ :: rest => functionNames rest
  | [] => []

/-- A stray mark: what is said of it, and the number of tokens from it on. -/
structure Stray where
  messages : List String
  left : Nat

/-- Parts the closing marks that nothing opened from the other tokens. A brace takes a semicolon behind it
with it; behind it, a line may not end. -/
def strays : Nat → Nat → List (Token × Nat) → List (Token × Nat) × List Stray
  | _, _, [] => ([], [])
  | parens, braces, (token, line) :: rest =>
    let kept (parens braces : Nat) : List (Token × Nat) × List Stray :=
      let (tokens, found) := strays parens braces rest
      ((token, line) :: tokens, found)
    match token with
    | .mark "(" => kept (parens + 1) braces
    | .mark "\x7b" => kept parens (braces + 1)
    | .mark ")" =>
      if 0 < parens then kept (parens - 1) braces
      else
        let (tokens, found) := strays 0 braces rest
        (tokens, ⟨[s!"line {line}: extra ')'"], rest.length + 1⟩ :: found)
    | .mark "\x7d" =>
      if 0 < braces then kept parens (braces - 1)
      else
        let behind := match rest with
          | (.mark ";", _) :: rest => rest
          | rest => rest
        let isLast := match behind with
          | [] => true
          | (.newline, _) :: _ => true
          | _ => false
        let more := if isLast then [s!"line {line}: syntax error at or near end of line"] else []
        let (tokens, found) := strays parens 0 rest
        (tokens, ⟨s!"line {line}: extra '\x7d'" :: more, rest.length + 1⟩ :: found)
    | _ => kept parens braces

/-- What is wrong with the calls of functions. -/
def callFaults (script : Script) (reading : Reading) : List String :=
  reading.calls.filterMap fun call =>
    match script.functions.find? (·.name == call.name) with
    | none => some s!"line {reading.lastLine + 1}: function {call.name} never defined"
    | some function =>
      if function.size < call.count
      then some s!"line {call.line}: too many arguments in call to {call.name}" else none

/-- The script that a text spells, or what is wrong with it. -/
def read (text : String) : Except (List String) Script :=
  let (tokens, found) := strays 0 0 (tokensOf text)
  let lines := (Text.fieldsOf '\n' text).length
  let lastLine := if text.endsWith "\n" then lines - 1 else lines
  let kinds := Parse.scalarNames.map (·, false) ++ Parse.tableNames.map (·, true)
  let reading : Reading :=
    { tokens, lastLine := max lastLine 1, functions := functionNames tokens, kinds }
  match (Parse.scriptFrom (tokens.length + 1) {}).run reading with
  | .error fault =>
    let (before, after) := found.partition fun stray => fault.left ≤ stray.left
    .error (before.flatMap (·.messages) ++ fault.messages ++ after.flatMap (·.messages))
  | .ok (script, reading) =>
    match found.flatMap (·.messages) ++ callFaults script reading with
    | [] => .ok script
    | faults => .error faults

end Script
end JavaStubs.Records

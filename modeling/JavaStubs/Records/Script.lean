import JavaStubs.Number.Binary64

namespace JavaStubs.Records

/-- A variable: one that the whole script shares, or one of a function's own, by its place. -/
inductive Variable where
  | shared (name : String)
  | own (place : Nat)
  deriving DecidableEq, Repr, Inhabited

/-- An operation on two numbers. -/
inductive Operation where
  | add
  | sub
  | mul
  | div
  | remainder
  | power
  deriving DecidableEq, Repr

/-- A comparison of two values. -/
inductive Comparison where
  | equal
  | unequal
  | less
  | lessOrEqual
  | greater
  | greaterOrEqual
  deriving DecidableEq, Repr

/-- A function that is built in. -/
inductive Builtin where
  | length
  | substr
  | index
  | split
  | sub
  | gsub
  | match_
  | sprintf
  | sin
  | cos
  | atan2
  | exp
  | log
  | sqrt
  | int
  | rand
  | srand
  | toupper
  | tolower
  | close
  | system
  | fflush
  deriving DecidableEq, Repr

/-- An expression. -/
inductive Expr where
  | number (x : Binary64)
  | text (text : String)
  /-- Whether the record fits an expression. -/
  | pattern (regex : String)
  | variable (variable_ : Variable)
  | element (table : Variable) (keys : List Expr)
  | field (number : Expr)
  | group (inner : Expr)
  | assign (target : Expr) (operation : Option Operation) (value : Expr)
  /-- Counting up or down by one; the value is that from before or from after it. -/
  | count (target : Expr) (up before : Bool)
  | operate (operation : Operation) (first second : Expr)
  | negate (value : Expr)
  | positive (value : Expr)
  | not (value : Expr)
  | and (first second : Expr)
  | or (first second : Expr)
  | choose (condition first second : Expr)
  | compare (comparison : Comparison) (first second : Expr)
  | fits (negated : Bool) (subject pattern : Expr)
  | join (first second : Expr)
  | isKey (keys : List Expr) (table : Variable)
  | call (name : String) (arguments : List Expr)
  | builtin (function : Builtin) (arguments : List Expr)
  /-- Reading the next record of the input. -/
  | readNext (target : Option Expr)
  | readFile (target : Option Expr) (name : Expr)
  | readCommand (target : Option Expr) (command : Expr)
  deriving Inhabited

namespace Expr

/-- Whether a value can be set to an expression. -/
def isTarget : Expr → Bool
  | .variable _ => true
  | .element _ _ => true
  | .field _ => true
  | _ => false

end Expr

/-- Where something is printed to. -/
inductive Sink where
  | replace (name : Expr)
  | append (name : Expr)
  | command (command : Expr)

/-- A statement. -/
inductive Stmt where
  | nothing
  | value (value : Expr)
  | print (values : List Expr) (sink : Option Sink)
  | printf (values : List Expr) (sink : Option Sink)
  | if_ (condition : Expr) (yes : Stmt) (no : Option Stmt)
  | while_ (condition : Expr) (body : Stmt)
  | doWhile (body : Stmt) (condition : Expr)
  /-- A loop with a start, a condition, and what is done behind each turn. -/
  | for_ (start : Option Expr) (condition : Option Expr) (next : Option Expr) (body : Stmt)
  | forKeys (key table : Variable) (body : Stmt)
  | block (statements : List Stmt)
  | next
  | nextFile
  | exit (code : Option Expr)
  | return_ (value : Option Expr)
  | break_
  | continue_
  | delete (table : Variable) (keys : List Expr)
  | clear (table : Variable)
  deriving Inhabited

/-- For which records a rule does something. -/
inductive Condition where
  | always
  | fits (value : Expr)
  /-- From a record on that fits, up to one that fits another condition. -/
  | between (first last : Expr)

/-- A rule; one that says nothing prints the record. -/
structure Rule where
  condition : Condition
  body : Option Stmt

/-- A function: how many variables it has of its own, and what it does. -/
structure Function where
  name : String
  size : Nat
  body : Stmt
  deriving Inhabited

/-- A script. -/
structure Script where
  starts : List Stmt := []
  rules : List Rule := []
  ends : List Stmt := []
  functions : List Function := []

end JavaStubs.Records

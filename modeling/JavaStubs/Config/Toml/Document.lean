import JavaStubs.Config.Toml.Scalar

/-!
TOML documents: statements on lines of their own, each the header of a table, the header of one more
table in an array of tables, or a key with its value. A document that breaks the grammar, sets a key
twice or opens a table twice is malformed, and no part of it is taken.

The values are scalars, arrays, and inline tables. Inside an inline table a dotted key opens tables on its
way, but none that another key has already closed with a value of its own.
-/
namespace JavaStubs.Toml

/-! ## Values -/

/-- The fields with those at the end of a way changed; tables missing on the way are made. If
`lists` is set, the way leads through the last item of a list. -/
def within (lists : Bool) (change : Fields → Option Fields) : Key → Fields → Option Fields
  | [], fields => change fields
  | name :: way, fields =>
    match Fields.get? fields name with
    | none => do return Fields.put name (.table (← within lists change way [])) fields
    | some (.table inner) => do
      return Fields.put name (.table (← within lists change way inner)) fields
    | some (.list items) =>
      match lists, items.getLast? with
      | true, some (.table inner) => do
        let last := Value.table (← within lists change way inner)
        return Fields.put name (.list (items.dropLast ++ [last])) fields
      | _, _ => none
    | some _ => none

/-- The fields with one more, if there is none of its name. -/
def addNew (name : String) (value : Value) (fields : Fields) : Option Fields :=
  if Fields.has fields name then none else some (Fields.put name value fields)

/-- Whether there is a field of a name at the end of a way. -/
def isTaken (fields : Fields) : Key → String → Bool
  | [], name => Fields.has fields name
  | step :: way, name =>
    match Fields.get? fields step with
    | some (.table inner) => isTaken inner way name
    | _ => false

/-- Whether a value closes its key: nothing may be added to it from outside. -/
def closes : Value → Bool
  | .list _ => true
  | .table _ => true
  | _ => false

/-- How many arrays and inline tables may lie in one another. -/
def depthLimit : Nat := 490

/-- An inline table: its fields, and the keys in it that are closed. -/
structure InlineTable where
  fields : Fields
  closed : List Key

/-- The inline table with one more key, when `left` is behind its value. -/
def InlineTable.add (table : InlineTable) (key : Key) (value : Value) (left : List Char) :
    Except Fault InlineTable :=
  let way := key.dropLast
  let name := key.getLast?.getD ""
  if table.closed.any (·.isPrefixOf key) then fail (.closed key) left
  else match within false (addNew name value) way table.fields with
    | some fields => .ok ⟨fields, if closes value then key :: table.closed else table.closed⟩
    | none =>
      if isTaken table.fields way name then fail (.repeatedKey name) left
      else fail .overwritten left

mutual

/-- A value inside `depth` others; `fuel` is more than twice the length of the text. -/
def value (fuel depth : Nat) (text : List Char) : Except Fault (Taken Value) :=
  match fuel, text with
  | fuel + 1, '[' :: rest =>
    if depthLimit ≤ depth then fail .tooDeep text
    else do items fuel depth [] (← skipSpread rest.length rest)
  | fuel + 1, '\x7b' :: rest =>
    if depthLimit ≤ depth then fail .tooDeep text
    else match skipGap rest with
      | '\x7d' :: rest => .ok (.table [], rest)
      | rest => pairs fuel depth ⟨[], []⟩ rest
  | _, text => scalar text

/-- The items of an array from the next one on, behind those in `done`, latest first. -/
def items (fuel depth : Nat) (done : List Value) (text : List Char) :
    Except Fault (Taken Value) :=
  match fuel, text with
  | _, ']' :: rest => .ok (.list done.reverse, rest)
  | 0, text => fail .openArray text
  | fuel + 1, text => do
    let (item, rest) ← value fuel (depth + 1) text
    match ← skipSpread rest.length rest with
    | ']' :: rest => return (.list (item :: done).reverse, rest)
    | ',' :: rest => items fuel depth (item :: done) (← skipSpread rest.length rest)
    | rest => fail .openArray rest

/-- The pairs of an inline table from the next one on. -/
def pairs (fuel depth : Nat) (table : InlineTable) (text : List Char) :
    Except Fault (Taken Value) :=
  match fuel with
  | 0 => fail .openInlineTable text
  | fuel + 1 => do
    let (key, rest) ← key (text.length + 1) text
    let '=' :: rest := rest | fail .noEqualsSign rest
    let (found, rest) ← value fuel (depth + 1) (skipGap rest)
    let table ← table.add key found rest
    match skipGap rest with
    | '\x7d' :: rest => return (.table table.fields, rest)
    | ',' :: rest => pairs fuel depth table (skipGap rest)
    | rest => fail .openInlineTable rest

end

/-! ## Statements -/

/-- What a document has defined so far. -/
structure State where
  table : Fields
  /-- The table that keys are set in. -/
  header : Key
  /-- The tables that no header may open any more. -/
  opened : List Key
  /-- The tables that dotted keys have opened under the present header. -/
  pending : List Key
  /-- The keys whose value is an array or an inline table. -/
  closed : List Key

def State.start : State := ⟨[], [], [], [], []⟩

/-- Whether a way leads to a closed key or beyond it. -/
def State.isClosed (state : State) (way : Key) : Bool := state.closed.any (·.isPrefixOf way)

/-- The state at a header: what dotted keys have opened before it stays opened. -/
def State.settled (state : State) : State :=
  { state with opened := state.opened ++ state.pending, pending := [] }

/-- Opens a table; `left` is behind its name. -/
def State.openTable (state : State) (way : Key) (left : List Char) : Except Fault State :=
  if state.opened.contains way || state.isClosed way then fail (.declaredTwice way) left
  else match within true some way state.table with
    | none => fail .overwritten left
    | some table =>
      .ok { state with table := table, header := way, opened := way :: state.opened }

/-- The fields with one more empty table in the list of a name. -/
def addTable (name : String) (fields : Fields) : Option Fields :=
  match Fields.get? fields name with
  | none => some (Fields.put name (.list [.table []]) fields)
  | some (.list items) => some (Fields.put name (.list (items ++ [.table []])) fields)
  | some _ => none

/-- Opens one more table in an array of tables; `left` is behind its name. What was opened or closed
in the table before it counts no longer. -/
def State.openNext (state : State) (way : Key) (left : List Char) : Except Fault State :=
  if state.isClosed way then fail (.closed way) left
  else match within true (addTable (way.getLast?.getD "")) way.dropLast state.table with
    | none => fail .overwritten left
    | some table =>
      let outside := fun other : Key => !way.isPrefixOf other
      .ok { state with
        table := table
        header := way
        opened := way :: state.opened.filter outside
        closed := state.closed.filter outside }

/-- Sets a key to a value; `left` is behind the value. -/
def State.set (state : State) (key : Key) (value : Value) (left : List Char) :
    Except Fault State :=
  let parents := ((List.range key.length).drop 1).map fun n => state.header ++ key.take n
  let way := state.header ++ key.dropLast
  match parents.find? state.opened.contains with
  | some parent => fail (.redefined parent) left
  | none =>
    if state.isClosed way then fail (.closed way) left
    else match within true (addNew (key.getLast?.getD "") value) way state.table with
      | none => fail .overwritten left
      | some table =>
        let closed := if closes value then (state.header ++ key) :: state.closed else state.closed
        .ok { state with table := table, pending := state.pending ++ parents, closed := closed }

/-- One statement at the start of a text, and what follows. -/
def statement (state : State) (text : List Char) : Except Fault (Taken State) :=
  match text with
  | '[' :: '[' :: rest => do
    let (way, rest) ← key (rest.length + 1) (skipGap rest)
    let state ← state.settled.openNext way rest
    let ']' :: ']' :: rest := rest | fail .noTablesEnd rest
    return (state, rest)
  | '[' :: rest => do
    let (way, rest) ← key (rest.length + 1) (skipGap rest)
    let state ← state.settled.openTable way rest
    let ']' :: rest := rest | fail .noTableEnd rest
    return (state, rest)
  | '#' :: _ => .ok (state, text)
  | text =>
    if text.head?.any isKeyStart then do
      let (key, rest) ← key (text.length + 1) text
      let '=' :: rest := rest | fail .noEqualsSign rest
      let (value, rest) ← value (2 * rest.length + 2) 0 (skipGap rest)
      return (← state.set key value rest, rest)
    else fail .noStatement text

/-- What the statements of a text define; `fuel` is more than its length. -/
def statements : Nat → State → List Char → Except Fault State
  | 0, state, _ => .ok state
  | fuel + 1, state, text =>
    match skipGap text with
    | [] => .ok state
    | '\n' :: rest => statements fuel state rest
    | text => do
      let (state, rest) ← statement state text
      match ← skipComment (skipGap rest) with
      | [] => return state
      | '\n' :: rest => statements fuel state rest
      | rest => fail .noLineEnd rest

/-- A text in which a carriage return before a line feed is left out. -/
def plainNewlines : List Char → List Char
  | '\r' :: '\n' :: rest => '\n' :: plainNewlines rest
  | c :: rest => c :: plainNewlines rest
  | [] => []

/-- A malformed text with its fault. -/
structure Malformed where
  text : List Char
  fault : Fault
  deriving Repr

/-- The wording of what is wrong with a text. -/
def Malformed.message (malformed : Malformed) : String := malformed.fault.message malformed.text

/-- The table that a text defines. -/
def read (text : String) : Except Malformed Fields :=
  let text := plainNewlines text.toList
  match statements (text.length + 1) .start text with
  | .ok state => .ok state.table
  | .error fault => .error ⟨text, fault⟩

end JavaStubs.Toml

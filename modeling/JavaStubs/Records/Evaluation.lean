import JavaStubs.Records.Channels

namespace JavaStubs.Records

open Host (Regex)

/-- What runs expressions and statements. -/
structure Evaluator where
  value : Expr → Act Value
  run : Stmt → Act Unit

/-- Where a value is set: a variable, an element of a table, or a field. -/
inductive Place where
  | variable (variable_ : Variable)
  | element (table : Nat) (key : Key)
  | field (place : Nat)

namespace Act

def valueAt : Place → Act Value
  | .variable found => valueOf found
  | .element number key => do
    let found := (← table number).look true key
    setTable number found
    return found.valueOf key
  | .field place => field place

def setAt (place : Place) (value : Value) : Act Unit :=
  match place with
  | .variable found => setVariable found value
  | .element number key => do setTable number ((← table number).put key value)
  | .field place => setField place value

/-- Repeats something as long as it says so, up to a number of times. -/
def repeated (step : Act Bool) : Nat → Act Unit
  | 0 => throw .tooDeep
  | count + 1 => do
    if ← step then repeated step count

/-- The number of turns that a loop may take. -/
def turns : Nat := 50000000

/-- Runs what is done in a loop, and tells whether the loop goes on. -/
def turn (body : Act Unit) : Act Bool := do
  try
    body
    return true
  catch
    | .break_ => return false
    | .continue_ => return true
    | stop => throw stop

end Act

open Act

/-! ## Values -/

def Operation.apply : Operation → Binary64 → Binary64 → Binary64
  | .add => Binary64.add
  | .sub => Binary64.sub
  | .mul => Binary64.mul
  | .div => Binary64.div
  | .remainder => Binary64.remainder
  | .power => Binary64.power

/-- Whether a comparison holds for the place of a value next to another one. -/
def Comparison.holds : Comparison → Ordering → Bool
  | .equal, found => found == .eq
  | .unequal, found => found != .eq
  | .less, found => found == .lt
  | .lessOrEqual, found => found != .gt
  | .greater, found => found == .gt
  | .greaterOrEqual, found => found != .lt

/-- The place of a value next to another one: as numbers if both are, and else as texts. -/
def orderOf (first second : Value) : Act Ordering := do
  match first.number?, second.number? with
  | some x, some y => return (x.compare y).getD .eq
  | _, _ => return compareOfLessAndEq (← textOf first) (← textOf second)

namespace Evaluator

def keyOf (inner : Evaluator) (keys : List Expr) : Act Key := do
  match keys with
  | [single] => Act.keyOf (← inner.value single)
  | keys => do
    let texts ← keys.mapM fun key => do textOf (← inner.value key)
    return .text (Text.joined (← sharedText "SUBSEP") texts)

/-- The place that an expression describes. -/
def placeOf (inner : Evaluator) : Expr → Act Place
  | .variable found => return .variable found
  | .element table keys => do
    let key ← inner.keyOf keys
    return .element (← tableOf table) key
  | .field number => do return .field (← fieldPlace (← inner.value number))
  | .group found => do
    match found with
    | .field number => return .field (← fieldPlace (← inner.value number))
    | _ => refuse "assignment to a value"
  | _ => refuse "assignment to a value"

def text (inner : Evaluator) (expr : Expr) : Act String := do textOf (← inner.value expr)

def number (inner : Evaluator) (expr : Expr) : Act Binary64 := return (← inner.value expr).toNumber

/-- The expression of a pattern that is written, or that a text spells. -/
def regex (inner : Evaluator) : Expr → Act Regex
  | .pattern found => regexOf found
  | expr => do regexOf (← inner.text expr)

/-! ## Calls -/

/-- What a function is given for an argument: a value, or the table of a variable. -/
def argument (inner : Evaluator) : Expr → Act Slot
  | .variable found => do
    if found = .shared "NF" then return .value (← valueOf found)
    match ← slotOf found with
    | .value .unset => do
      let number ← newTable .empty
      setSlot found (.either number)
      return .either number
    | slot => return slot
  | expr => do return .value (← inner.value expr)

/-- Calls a function. -/
def call (inner : Evaluator) (name : String) (arguments : List Expr) : Act Value := do
  match (← get).functions[name]? with
  | none => refuse s!"function {name} never defined"
  | some function =>
    let slots ← arguments.mapM inner.argument
    let before := (← get).own
    let own := slots ++ List.replicate (function.size - slots.length) (.value .unset)
    modify fun machine => { machine with own := own.toArray }
    let result : Value ← try
        inner.run function.body
        pure Value.unset
      catch
        | .return_ value => pure value
        | stop => throw stop
    modify fun machine => { machine with own := before }
    return result

/-! ## Functions that are built in -/

/-- A part of a text, from a place on that is counted from one. -/
def partOf (chars : List Char) (start : Binary64) (count : Option Binary64) : String :=
  let length : Int := chars.length
  let low := (start.rounded?).getD (if start.isNegative then -1 else length + 1)
  let high : Int := match count with
    | none => length + 1
    | some count =>
      let stop := start.add count
      (stop.rounded?).getD (if stop.isNegative then 0 else length + 1)
  let low := max low 1
  let high := min high (length + 1)
  String.ofList ((chars.drop (low - 1).toNat).take (high - low).toNat)

/-- The place of a text in another one, counted from one. -/
def placeIn (text : List Char) : Nat → List Char → Nat
  | place, [] => if text.isEmpty then place else 0
  | place, c :: rest => if text.isPrefixOf (c :: rest) then place else placeIn text (place + 1) rest

/-- Replaces parts of a text at a place, and tells how many. -/
def substitute (inner : Evaluator) (all : Bool) (pattern replacement : Expr) (target : Expr) :
    Act Value := do
  let regex ← inner.regex pattern
  let replacement ← inner.text replacement
  let place ← inner.placeOf target
  let (found, count) := replaced regex replacement all (← textOf (← valueAt place))
  if 0 < count then setAt place (.text found)
  return .ofNat count

/-- Parts a text, and sets the parts as a table. -/
def split (inner : Evaluator) (whole table : Expr) (separator : Option Expr) : Act Value := do
  let whole ← inner.text whole
  let separator ← match separator with
    | none => do separatorOf (← sharedText "FS")
    | some (.pattern found) => pure (Separator.regex (← regexOf found))
    | some found => do separatorOf (← inner.text found)
  let parts := separator.parts whole
  match table with
  | .variable found =>
    setTable (← tableOf found) (Table.ofList (parts.map Value.input))
    return .ofNat parts.length
  | _ => refuse "type error in arg(2) in call to split"

/-- A layout with values in it; a fault ends the script behind what could be shown. -/
def layoutText (inner : Evaluator) (caller : String) (values : List Expr) :
    Act (String × Option LayoutFault × String) := do
  match ← values.mapM inner.value with
  | [] => return ("", none, "")
  | layout :: values =>
    let layout ← textOf layout
    let conversion ← sharedText "CONVFMT"
    let (shown, fault) := filled (numberText conversion) layout values
    return (shown, fault, (fault.map (·.message caller layout)).getD "")

def function? : Builtin → Option (Binary64 → Binary64)
  | .sin => some (Binary64.through Float.sin)
  | .cos => some (Binary64.through Float.cos)
  | .exp => some (Binary64.through Float.exp)
  | .log => some (Binary64.through Float.log)
  | .sqrt => some (Binary64.through Float.sqrt)
  | .int => some Binary64.truncated
  | _ => none

/-- The length of a text or of a table. -/
def lengthOf (inner : Evaluator) : List Expr → Act Value
  | [.variable found] => do
    match ← slotOf found with
    | .table number => return .ofNat (← table number).size
    | .either number => return .ofNat (← table number).size
    | .value _ => return .ofNat (← textOf (← valueOf found)).length
  | [expr] => return .ofNat (← inner.text expr).length
  | _ => return .ofNat (← record).length

/-- The next number of a row of numbers that look as if they came by chance. -/
def nextRandom (n : Nat) : Nat := (n * 6364136223846793005 + 1442695040888963407) % Nat.pow 2 64

/-- Calls a function that is built in. -/
def builtin (inner : Evaluator) (function : Builtin) (arguments : List Expr) : Act Value := do
  match function, arguments with
  | .length, found => inner.lengthOf found
  | .substr, [whole, start] => do
    let chars := (← inner.text whole).toList
    return .text (partOf chars (← inner.number start) none)
  | .substr, [whole, start, count] => do
    let chars := (← inner.text whole).toList
    let start ← inner.number start
    return .text (partOf chars start (some (← inner.number count)))
  | .index, [whole, part] => do
    let whole ← inner.text whole
    return .ofNat (placeIn (← inner.text part).toList 1 whole.toList)
  | .split, [whole, table] => inner.split whole table none
  | .split, [whole, table, separator] => inner.split whole table (some separator)
  | .sub, [pattern, replacement] =>
    inner.substitute false pattern replacement (.field (.number Binary64.zero))
  | .sub, [pattern, replacement, target] => inner.substitute false pattern replacement target
  | .gsub, [pattern, replacement] =>
    inner.substitute true pattern replacement (.field (.number Binary64.zero))
  | .gsub, [pattern, replacement, target] => inner.substitute true pattern replacement target
  | .match_, [whole, pattern] => do
    let whole ← inner.text whole
    let (place, length) : Int × Int := match (← inner.regex pattern).search .plain whole.toList with
      | some found => (found.before.length + 1, found.text.length)
      | none => (0, -1)
    setShared "RSTART" (.number (Binary64.ofInt place))
    setShared "RLENGTH" (.number (Binary64.ofInt length))
    return .number (Binary64.ofInt place)
  | .sprintf, values => do
    let (shown, fault, message) ← inner.layoutText "sprintf" values
    if fault.isSome then refuse message
    return .text shown
  | .atan2, [y, x] => do
    let y ← inner.number y
    return .number (y.angle (← inner.number x))
  | .rand, _ => do
    let next := nextRandom (← get).random
    modify fun machine => { machine with random := next }
    return .number ((Binary64.ofNat (next / Nat.pow 2 11)).div (Binary64.ofNat (Nat.pow 2 53)))
  | .srand, arguments => do
    let before := (← get).seed
    let seed ← match arguments with
      | [found] => inner.number found
      | _ => pure Binary64.zero
    modify fun machine => { machine with seed, random := nextRandom seed.bits }
    return .number before
  | .toupper, [found] => return .text ((← inner.text found).map Char.toUpper)
  | .tolower, [found] => return .text ((← inner.text found).map Char.toLower)
  | .close, [name] => return .number (Binary64.ofInt (← close (← inner.text name)))
  | .system, [command] => do
    let command ← inner.text command
    flush
    return .number (Binary64.ofInt (← runShown command none))
  | .fflush, _ => do
    flush
    return .number Binary64.zero
  | function, [found] =>
    match function? function with
    | some apply => return .number (apply (← inner.number found))
    | none => refuse "unknown function"
  | _, _ => refuse "unknown function"

/-! ## Reading -/

/-- Sets what was read: at a place, or as the record. -/
def take (inner : Evaluator) (target : Option Expr) (found : String) : Act Unit := do
  match target with
  | none => setRecord found
  | some target => do setAt (← inner.placeOf target) (.input found)

/-- Reads the next record of a source, and tells how that went. -/
def readFrom (inner : Evaluator) (target : Option Expr) (name : String) (isCommand : Bool) :
    Act Value := do
  match ← readSource name isCommand with
  | .error _ => return .number (Binary64.ofInt (-1))
  | .ok none => return .ofNat 0
  | .ok (some found) =>
    inner.take target found
    return .ofNat 1

/-! ## Expressions -/

/-- The value of an expression. -/
def valueStep (inner : Evaluator) (expr : Expr) : Act Value := do
  match expr with
  | .number x => return .number x
  | .text shown => return .text shown
  | .pattern found => do
    let regex ← regexOf found
    return .ofBool (regex.search .plain (← record).toList).isSome
  | .variable found => valueOf found
  | .element _ _ => do valueAt (← inner.placeOf expr)
  | .field _ => do valueAt (← inner.placeOf expr)
  | .group found => inner.value found
  | .assign target none value => do
    let place ← inner.placeOf target
    let value ← inner.value value
    setAt place value
    return value
  | .assign target (some operation) value => do
    let place ← inner.placeOf target
    let value ← inner.number value
    let before := (← valueAt place).toNumber
    let result : Value := .number (operation.apply before value)
    setAt place result
    return result
  | .count target up before => do
    let place ← inner.placeOf target
    let found := (← valueAt place).toNumber
    let one := Binary64.ofNat 1
    let result := if up then found.add one else found.sub one
    setAt place (.number result)
    return .number (if before then found else result)
  | .operate operation first second => do
    let first ← inner.number first
    return .number (operation.apply first (← inner.number second))
  | .negate value => return .number (← inner.number value).negated
  | .positive value => return .number (← inner.number value)
  | .not value => return .ofBool !(← inner.value value).isTrue
  | .and first second => do
    if !(← inner.value first).isTrue then return .ofBool false
    return .ofBool (← inner.value second).isTrue
  | .or first second => do
    if (← inner.value first).isTrue then return .ofBool true
    return .ofBool (← inner.value second).isTrue
  | .choose condition first second => do
    if (← inner.value condition).isTrue then inner.value first else inner.value second
  | .compare comparison first second => do
    let first ← inner.value first
    return .ofBool (comparison.holds (← orderOf first (← inner.value second)))
  | .fits negated subject pattern => do
    let subject ← inner.text subject
    let regex ← inner.regex pattern
    return .ofBool ((regex.search .plain subject.toList).isSome != negated)
  | .join first second => do
    let first ← inner.text first
    return .text (first ++ (← inner.text second))
  | .isKey keys found => do
    let key ← inner.keyOf keys
    let number ← tableOf found
    let looked := (← table number).look false key
    setTable number looked
    return .ofBool (looked.contains key)
  | .call name arguments => inner.call name arguments
  | .builtin function arguments => inner.builtin function arguments
  | .readNext target => do
    match ← readInput with
    | none => return .ofNat 0
    | some found => do
      inner.take target found
      return .ofNat 1
  | .readFile target name => do
    let name ← inner.text name
    inner.readFrom target name false
  | .readCommand target command => do
    let command ← inner.text command
    inner.readFrom target command true

/-! ## Statements -/

def targetOf (inner : Evaluator) : Option Sink → Act (Option Target)
  | none => return none
  | some (.replace name) => return some (.replace (← inner.text name))
  | some (.append name) => return some (.append (← inner.text name))
  | some (.command command) => return some (.command (← inner.text command))

def printedText (value : Value) : Act String := do
  match value with
  | .number x =>
    match wholeText? x with
    | some digits => return digits
    | none => return numberText (← sharedText "OFMT") x
  | value => textOf value

/-- Runs a statement. -/
def runStep (inner : Evaluator) (stmt : Stmt) : Act Unit := do
  match stmt with
  | .nothing => return
  | .value found => do
    let _ ← inner.value found
  | .print values sink => do
    let values ← values.mapM inner.value
    let texts ← if values.isEmpty then (do return [← record]) else values.mapM printedText
    let target ← inner.targetOf sink
    Act.print target (Text.joined (← sharedText "OFS") texts ++ (← sharedText "ORS"))
  | .printf values sink => do
    let (shown, fault, message) ← inner.layoutText "printf" values
    let target ← inner.targetOf sink
    Act.print target shown
    if fault.isSome then refuse message
  | .if_ condition yes no => do
    if (← inner.value condition).isTrue then inner.run yes
    else if let some no := no then inner.run no
  | .while_ condition body =>
    repeated (do
      if !(← inner.value condition).isTrue then return false
      turn (inner.run body)) turns
  | .doWhile body condition =>
    repeated (do
      if !(← turn (inner.run body)) then return false
      return (← inner.value condition).isTrue) turns
  | .for_ start condition next body => do
    if let some start := start then
      let _ ← inner.value start
    repeated (do
      if let some condition := condition then
        if !(← inner.value condition).isTrue then return false
      if !(← turn (inner.run body)) then return false
      if let some next := next then
        let _ ← inner.value next
      return true) turns
  | .forKeys key found body => do
    let number ← tableOf found
    let (keys, told) := (← table number).keys
    setTable number told
    eachKey key body keys
  | .block statements => statements.forM inner.run
  | .next => throw .next
  | .nextFile => throw .nextFile
  | .exit code => do
    if let some code := code then
      let found := wholeOf (← inner.number code)
      modify fun machine => { machine with code := found % 256 }
    throw .exit
  | .return_ none => throw (.return_ .unset)
  | .return_ (some value) => throw (.return_ (← inner.value value))
  | .break_ => throw .break_
  | .continue_ => throw .continue_
  | .delete found keys => do
    let key ← inner.keyOf keys
    let number ← tableOf found
    setTable number ((← table number).erase key)
  | .clear found => do setTable (← tableOf found) .empty
where
  /-- Runs what is done for keys. -/
  eachKey (key : Variable) (body : Stmt) : List String → Act Unit
    | [] => return
    | first :: rest => do
      setVariable key (.text first)
      if ← turn (inner.run body) then eachKey key body rest

end Evaluator

def evaluator : Nat → Evaluator
  | 0 => ⟨fun _ => throw .tooDeep, fun _ => throw .tooDeep⟩
  | depth + 1 => ⟨fun expr => (evaluator depth).valueStep expr, fun stmt => (evaluator depth).runStep stmt⟩

/-! ## Scripts -/

/-- Whether a rule does something for the record; `place` is its place. -/
def fitsRule (inner : Evaluator) (place : Nat) : Condition → Act Bool
  | .always => return true
  | .fits value => return (← inner.value value).isTrue
  | .between first last => do
    let isActive := (← get).active.contains place
    if !isActive && !(← inner.value first).isTrue then return false
    let ends := (← inner.value last).isTrue
    modify fun machine =>
      let others := machine.active.filter (· != place)
      { machine with active := if ends then others else place :: others }
    return true

/-- Does what rules say for the record. -/
def runRules (inner : Evaluator) (rules : List Rule) : Act Unit :=
  rules.zipIdx.forM fun (rule, place) => do
    if ← fitsRule inner place rule.condition then
      inner.run (rule.body.getD (.print [] none))

/-- Does what rules say for the next record, if there is one. -/
def runRecord (inner : Evaluator) (rules : List Rule) : Act Bool := do
  match ← readInput with
  | none => return false
  | some found => do
    setRecord found
    try
      runRules inner rules
    catch
      | .next => pure ()
      | .nextFile => leaveFile
      | stop => throw stop
    return true

/-- Runs something, and tells whether the script goes on to the next part. -/
def goesOn (part : Act Unit) : Act Bool := do
  try
    part
    return true
  catch
    | .exit => return false
    | stop => throw stop

def Script.run (script : Script) (inner : Evaluator) : Act Unit := do
  let started ← goesOn (script.starts.forM inner.run)
  if started && (!script.rules.isEmpty || !script.ends.isEmpty) then
    let _ ← goesOn (repeated (runRecord inner script.rules) turns)
  let _ ← goesOn (script.ends.forM inner.run)

end JavaStubs.Records

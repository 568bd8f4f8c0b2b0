import JavaStubs.Host.Launchers

/-!
The program that runs another one with arguments from its input. The input is cut into words, which
may be quoted, into lines, or at a mark; then the arguments are handed out to as many runs as the
limits ask for.
-/
namespace JavaStubs.Host

open Work

/-! ## Arguments -/

/-- An argument from the input, and whether a line ends behind it. -/
structure InputItem where
  text : String
  endsLine : Bool
  deriving DecidableEq, Repr

/-- Where reading words stands: between them, in one, in quotes, or behind a backslash. -/
inductive WordPlace where
  | between
  | inside
  | quoted (mark : Char)
  | escaped
  deriving DecidableEq, Repr

/-- What the input holds: the arguments, and the quotation mark that is never closed, if there is
one. -/
abbrev InputItems := List InputItem × Option Char

/-- A word up to the first octet that no argument can hold. -/
def wordText (word : List Char) : String := String.ofList (word.reverse.takeWhile (· != '\x00'))

/-- The words of a text; `whole` says that only line ends separate them, and `word` is the present
one, the last character first. `last` is the character before. -/
def itemsFrom (whole : Bool) (place : WordPlace) (last : Char) (word : List Char) :
    List Char → InputItems
  | [] =>
    if word.isEmpty then ([], none)
    else match place with
      | .quoted mark => ([], some mark)
      | _ => ([⟨wordText word, false⟩], none)
  | c :: rest =>
    let ended (endsLine : Bool) (place : WordPlace) : InputItems :=
      let (items, fault) := itemsFrom whole place c [] rest
      (⟨wordText word, endsLine⟩ :: items, fault)
    let isBlank := c == ' ' || c == '\t'
    match place with
    | .quoted mark =>
      if c == '\n' then ([], some mark)
      else if c == mark then itemsFrom whole .inside c word rest
      else itemsFrom whole place c (c :: word) rest
    | .escaped => itemsFrom whole .inside c (c :: word) rest
    | place =>
      if place == .between && (isBlank || ('\x0a' ≤ c && c ≤ '\x0d')) then
        itemsFrom whole .between c word rest
      else if c == '\n' then ended (last != ' ' && last != '\t') .between
      else if isBlank && !whole then ended false .between
      else if c == '\\' then itemsFrom whole .escaped c word rest
      else if c == '"' || c == '\'' then itemsFrom whole (.quoted c) c word rest
      else itemsFrom whole .inside c (c :: word) rest

def itemsBetween (mark : Char) (text : String) : InputItems :=
  let found := Text.fieldsOf mark text
  let found := if found.getLast? = some "" then found.dropLast else found
  (found.map fun item => ⟨wordText item.toList.reverse, true⟩, none)

/-! ## Runs -/

/-- What limits the arguments of a run. -/
inductive RunLimit where
  | none
  | words (count : Nat)
  | lines (count : Nat)
  /-- One run for each argument, which stands for a mark. -/
  | replacing (mark : String)
  deriving DecidableEq, Repr

/-- What the options say. -/
structure RunPlan where
  limit : RunLimit := .none
  mark : Option Char := none
  /-- The word at which the input ends. -/
  stop : Option String := none
  size : Option Nat := none
  needsItems : Bool := false
  shows : Bool := false
  source : String := "-"
  /-- Warnings about options that do not go together, the latest first. -/
  warnings : List String := []

/-- Why options are refused. -/
inductive PlanFault where
  | notNumber (text : String) (letter : Char)
  | tooSmall (text : String) (letter : Char) (least : Nat)
  | badMark (text : String)
  | badEscape (text : String)

/-- The wording of a fault, and whether the help is referred to. -/
def PlanFault.wording : PlanFault → String × Bool
  | .notNumber text letter => ("invalid number \"" ++ text ++ s!"\" for -{letter} option", true)
  | .tooSmall text letter least => (s!"value {text} for -{letter} option should be >= {least}", true)
  | .badMark text =>
    (s!"Invalid input delimiter specification {text}: the delimiter must be either " ++
      "a single character or an escape sequence starting with \\.", false)
  | .badEscape text => (s!"Invalid escape sequence {text} in input delimiter specification.", false)

namespace RunPlan

def number (text : String) (letter : Char) (least : Nat) : Except PlanFault Nat :=
  match text.toInt? with
  | some n => if n < least then .error (.tooSmall text letter least) else .ok n.toNat
  | none => .error (.notNumber text letter)

def markOf (text : String) : Except PlanFault Char :=
  match text.toList with
  | [c] => .ok c
  | '\\' :: _ :: _ =>
    match (unescaped .format text).1.toList with
    | [c] => .ok c
    | _ => .error (.badEscape text)
  | _ => .error (.badMark text)

/-- The plan with another limit, which has a name; a limit of another kind is forgotten. -/
def limited (plan : RunPlan) (name : String) (limit : RunLimit) : RunPlan :=
  let old : Option String := match plan.limit, limit with
    | .words _, .words _ => none
    | .lines _, .lines _ => none
    | .replacing _, .replacing _ => none
    | .none, _ => none
    | .words _, _ => some "--max-args"
    | .lines _, _ => some "--max-lines"
    | .replacing _, _ => some "--replace"
  let warnings := old.toList.map fun old =>
    s!"warning: options {old} and {name} are mutually exclusive, ignoring previous {old} value"
  { plan with limit, warnings := warnings ++ plan.warnings }

/-- The plan that one more option asks for. -/
def withOption (plan : RunPlan) (option : Char × String) : Except PlanFault RunPlan := do
  let (letter, value) := option
  match letter with
  | '0' => return { plan with mark := some '\x00' }
  | 'd' => return { plan with mark := some (← markOf value) }
  | 'E' => return { plan with stop := some value }
  | 'e' => return { plan with stop := if value.isEmpty then none else some value }
  | 'I' => return plan.limited "--replace/-I/-i" (.replacing value)
  | 'i' =>
    let mark := "\x7b\x7d"
    return plan.limited "--replace/-I/-i" (.replacing (if value.isEmpty then mark else value))
  | 'L' => return plan.limited "-L" (.lines (← number value 'L' 1))
  | 'l' =>
    let count ← if value.isEmpty then pure 1 else number value 'l' 1
    return plan.limited "--max-lines/-l" (.lines count)
  | 'n' =>
    let count ← number value 'n' 1
    match plan.limit with
    | .replacing _ => if count = 1 then return plan
    | _ => pure ()
    return plan.limited "--max-args/-n" (.words count)
  | 'r' => return { plan with needsItems := true }
  | 's' => return { plan with size := some (← number value 's' 1) }
  | 't' => return { plan with shows := true }
  | 'a' => return { plan with source := value }
  | 'P' =>
    let _ ← number value 'P' 0
    return plan
  | _ => return plan

/-- The arguments that the input holds. -/
def items (plan : RunPlan) (text : String) : InputItems :=
  let whole := match plan.limit with
    | .replacing _ => true
    | _ => false
  let (items, fault) := match plan.mark with
    | some mark => itemsBetween mark text
    | none => itemsFrom whole .between ' ' [] text.toList
  match plan.stop with
  | some word =>
    let kept := if plan.mark.isSome then items else items.takeWhile (·.text != word)
    (kept, if kept.length < items.length then none else fault)
  | none => (items, fault)

def room (words : List String) : Nat := words.foldl (fun total word => total + word.length + 1) 0

/-- The arguments of the runs, and whether one of them has no room; `taken` are those of the present
run, the last one first, and `lines` is the number of their lines. -/
def shared (plan : RunPlan) (own : Nat) (taken : List String) (lines : Nat) :
    List InputItem → List (List String) × Bool
  | [] => (if taken.isEmpty then [] else [taken.reverse], false)
  | item :: rest =>
    let fits (words : List String) := plan.size.all (own + room words ≤ ·)
    let isFull := match plan.limit with
      | .words count => taken.length = count
      | _ => false
    let before := if taken.isEmpty then [] else [taken.reverse]
    if !fits [item.text] then (before, true)
    else
      let (before, taken) := if isFull || !fits (item.text :: taken) then (before, [item.text])
        else ([], item.text :: taken)
      let lines := lines + (if item.endsLine then 1 else 0)
      let isComplete := match plan.limit with
        | .lines count => decide (count ≤ lines)
        | _ => false
      let (runs, fails) := if isComplete then
          let (runs, fails) := plan.shared own [] 0 rest
          (taken.reverse :: runs, fails)
        else plan.shared own taken lines rest
      (before ++ runs, fails)

/-- The commands to run, and whether an argument has no room. -/
def commands (plan : RunPlan) (command : List String) (items : List InputItem) (isWhole : Bool) :
    List (List String) × Bool :=
  match plan.limit with
  | .replacing mark =>
    (items.map fun item => command.take 1 ++ (command.drop 1).map (·.replace mark item.text), false)
  | _ =>
    let (runs, fails) := plan.shared (room command) [] 0 items
    let runs := if runs.isEmpty && !fails && isWhole && !plan.needsItems then [[]] else runs
    (runs.map (command ++ ·), fails)

end RunPlan

/-- How running several commands has come out: whether all were started and none ended it, and
whether one failed in an ordinary way. -/
structure RunOutcome where
  isComplete : Bool
  hasFailed : Bool
  deriving DecidableEq, Repr

/-- Runs commands one after another until one of them ends all. -/
def runAll (start : Starter) (shows : Bool) (hasFailed : Bool) :
    List (List String) → Work RunOutcome
  | [] => return ⟨true, hasFailed⟩
  | words :: rest => do
    if shows then sayError (Text.joined " " (words.map shownName) ++ "\n")
    let name := words.head?.getD ""
    match ← launchNamed start name (words.drop 1) (← get).call.environment with
    | .error cause =>
      complain s!"{name}: {cause.wording}" (launchFailure cause)
      return ⟨false, hasFailed⟩
    | .ok () =>
      let code := (← get).code
      if code = 255 then
        complain s!"{name}: exited with status 255; aborting" 124
        return ⟨false, hasFailed⟩
      else if code < 0 then
        let signal := code.natAbs
        complain s!"{name}: terminated by signal {signal}" 125
        return ⟨false, hasFailed⟩
      else
        fail 0
        runAll start shows (hasFailed || code ≠ 0) rest

/-- Runs a command with arguments from the input. -/
def xargs (start : Starter) : Work Unit := do
  let table : OptionTable := { options "0prtxoeil" "adEILnPs" [("null", '0'), ("arg-file", 'a'),
    ("delimiter", 'd'), ("eof", 'e'), ("replace", 'i'), ("max-lines", 'l'), ("max-args", 'n'),
    ("no-run-if-empty", 'r'), ("max-chars", 's'), ("verbose", 't'), ("exit", 'x'),
    ("max-procs", 'P'), ("open-tty", 'o')] with optional := ['e', 'i', 'l'] }
  match table.readLeading (← get).call.arguments with
  | .error fault => misuse fault.message 1
  | .ok given =>
    match given.options.foldlM RunPlan.withOption {} with
    | .error fault =>
      let (message, refers) := fault.wording
      complain message 1
      if refers then referToHelp 1
    | .ok plan =>
      plan.warnings.reverse.forM fun warning => complain warning 0
      let input ← textOf plan.source
      let isBlocked := plan.source == "-" && (input matches .error _)
      match if isBlocked then .ok "" else input with
      | .error cause =>
        complain s!"Cannot open input file {quotedName plan.source}: {cause.wording}" 1
      | .ok text =>
        let command := if given.operands.isEmpty then ["echo"] else given.operands
        if !plan.size.all (RunPlan.room command ≤ ·) then
          complain "cannot fit single argument within argument list size limit" 1
        else
          let (items, unclosed) := plan.items text
          if plan.mark.isNone && text.toList.contains '\x00' then
            complain ("WARNING: a NUL character occurred in the input.  It cannot be passed " ++
              "through in the argument list.  Did you mean to use the --null option?") 0
          let (commands, fails) := plan.commands command items unclosed.isNone
          let outcome ← runAll start plan.shows false commands
          if outcome.isComplete then
            if fails then complain "argument line too long" 1
            else if let some mark := unclosed then
              let kind := if mark == '"' then "double" else "single"
              complain (s!"unmatched {kind} quote; by default quotes are special to xargs " ++
                "unless you use the -0 option") 1
          if outcome.hasFailed then fail 123
          if isBlocked then complain "error closing file" 1

end JavaStubs.Host

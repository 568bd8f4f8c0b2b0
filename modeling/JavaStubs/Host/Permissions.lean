import JavaStubs.Host.Places

namespace JavaStubs.Host

open Work

/-! ## Modes -/

/-- What is added to rights, taken from them or put in their place. -/
inductive ModeValue where
  /-- The rights of letters, and whether the right to run comes with them where anybody has it. -/
  | letters (mode : Nat) (runsIfAny : Bool)
  /-- What a class has. -/
  | sameAs (letter : Char)
  | number (mode : Nat)
  deriving DecidableEq, Repr

/-- One change of rights: of some classes, or of all if none is named. -/
structure ModeStep where
  classes : List Char
  sign : Char
  value : ModeValue
  deriving DecidableEq, Repr

/-- The rights of all classes to run. -/
def runRights : Nat := 0o111

/-- The rights that the class of a letter has. -/
def classRights (letter : Char) : Nat :=
  match letter with
  | 'u' => 0o4700
  | 'g' => 0o2070
  | 'o' => 0o1007
  | _ => 0o7777

/-- The rights that a letter stands for. -/
def letterRights (letter : Char) : Nat :=
  match letter with
  | 'r' => 0o444
  | 'w' => 0o222
  | 'x' => 0o111
  | 's' => 0o6000
  | 't' => 0o1000
  | _ => 0

/-- The rights of one class, for all of them. -/
def spread (mode : Nat) (letter : Char) : Nat :=
  let own := match letter with
    | 'u' => mode / 64 % 8
    | 'g' => mode / 8 % 8
    | _ => mode % 8
  own * 0o111

/-- The mode after a change; `mask` has the rights that are denied where no class is named. -/
def ModeStep.apply (step : ModeStep) (mask : Nat) (isDirectory : Bool) (mode : Nat) : Nat :=
  let affected := step.classes.foldl (fun rights letter => rights ||| classRights letter) 0
  let value := match step.value with
    | .letters value runsIfAny =>
      if runsIfAny && (isDirectory || mode &&& runRights != 0) then value ||| runRights else value
    | .sameAs other => spread mode other
    | .number value => value
  let isNumber := match step.value with
    | .number _ => true
    | _ => false
  let limit := if isNumber then 0o7777 else if affected == 0 then 0o7777 - mask else affected
  let value := value &&& limit
  if step.sign == '+' then mode ||| value
  else if step.sign == '-' then mode &&& (0o7777 - value)
  else if isNumber || affected == 0 then value
  else (mode &&& (0o7777 - affected)) ||| value

def modeAfter (steps : List ModeStep) (mask : Nat) (isDirectory : Bool) (mode : Nat) : Nat :=
  steps.foldl (fun mode step => step.apply mask isDirectory mode) mode

/-- Whether a character is a digit of a mode. -/
def isModeDigit (c : Char) : Bool := '0' ≤ c && c ≤ '7'

def modeNumber? (digits : List Char) : Option Nat :=
  let mode := digits.foldl (fun n c => min (n * 8 + (c.toNat - '0'.toNat)) 4096) 0
  if digits.isEmpty || 4095 < mode then none else some mode

/-- The value at the start of a text, and what is behind it. -/
def modeValue? (classes : List Char) (text : List Char) : Option (ModeValue × List Char) :=
  match text with
  | [] => some (.letters 0 false, [])
  | c :: rest =>
    if isModeDigit c then
      let after := text.dropWhile isModeDigit
      if !classes.isEmpty || !(after.isEmpty || after.head? == some ',') then none
      else (modeNumber? (text.takeWhile isModeDigit)).map fun mode => (.number mode, after)
    else if ['u', 'g', 'o'].contains c then some (.sameAs c, rest)
    else
      let letters := text.takeWhile "rwxXst".toList.contains
      let mode := letters.foldl (fun rights letter => rights ||| letterRights letter) 0
      some (.letters mode (letters.contains 'X'), text.drop letters.length)

def isModeSign (c : Char) : Bool := c == '+' || c == '-' || c == '='

/-- The changes of some classes that begin a text, and what is behind them; `fuel` is at least the
length of the text. -/
def stepsOf (classes : List Char) : Nat → List Char → Option (List ModeStep × List Char)
  | 0, text => some ([], text)
  | _ + 1, [] => some ([], [])
  | fuel + 1, sign :: rest => do
    if !isModeSign sign then return ([], sign :: rest)
    let (value, after) ← modeValue? classes rest
    let (steps, after) ← stepsOf classes fuel after
    return (⟨classes, sign, value⟩ :: steps, after)

/-- The changes that a mode in letters spells. -/
def letterSteps? (mode : String) : Option (List ModeStep) :=
  ((Text.fieldsOf ',' mode).mapM fun (clause : String) => do
    let text := clause.toList
    let classes := text.takeWhile "ugoa".toList.contains
    let (steps, after) ← stepsOf classes text.length (text.drop classes.length)
    if steps.isEmpty || !after.isEmpty then none else return steps).map List.flatten

def modeSteps? (mode : String) : Option (List ModeStep) :=
  let text := mode.toList
  if text.head?.any isModeDigit then
    if text.all isModeDigit then
      (modeNumber? text).map fun number => [⟨[], '=', .number number⟩]
    else none
  else letterSteps? mode

/-! ## The program -/

/-- Whether an argument is a mode that takes rights away, and not options. -/
def isModeArgument (argument : String) : Bool :=
  match argument.toList with
  | '-' :: c :: more =>
    match (c :: more).dropWhile "Rcfv".toList.contains with
    | [] => false
    | c :: _ => "rwxXstugoa,+=01234567".toList.contains c
  | _ => false

/-- What modes are changed to. -/
inductive ModeSource where
  | steps (steps : List ModeStep)
  /-- What another file has. -/
  | sameAs (location : Location)

/-- A mode in digits and in letters. -/
def modeDescription (mode : Nat) : String :=
  let digits := String.ofList (Nat.toDigits 8 mode)
  Text.repeated "0" (4 - digits.length) ++ s!"{digits} ({modeLetters mode})"

/-- Changes the mode of what lies at a location, and tells about it. -/
def changeMode (given : Invocation) (source : ModeSource) (name : String) (location : Location)
    (entry : Entry) : Work Unit := do
  let tells := given.has 'v' || given.has 'c'
  match entry with
  | .link _ =>
    if given.has 'v' then
      say s!"neither symbolic link {quotedName name} nor referent has been changed\n"
  | entry =>
    let old ← modeAt location
    let new ← match source with
      | .sameAs other => modeAt other
      | .steps steps =>
        pure (modeAfter steps (← get).disk.mask entry.isDirectory old)
    modify fun working => { working with disk := working.disk.withMode location new }
    if tells && old != new then
      say (s!"mode of {quotedName name} changed from {modeDescription old} to " ++
        s!"{modeDescription new}\n")
    else if given.has 'v' then
      say s!"mode of {quotedName name} retained as {modeDescription old}\n"

/-- Changes the rights to use files. -/
def chmod : Work Unit := do
  let arguments := (← get).call.arguments
  let (modes, others) := (arguments.takeWhile (· != "--")).partition isModeArgument
  let table := options "cfvR\x02\x03" "\x01" [("changes", 'c'), ("silent", 'f'), ("quiet", 'f'),
    ("verbose", 'v'), ("recursive", 'R'), ("reference", '\x01'), ("preserve-root", '\x02'),
    ("no-preserve-root", '\x03')]
  match table.read (others ++ arguments.dropWhile (· != "--")) with
  | .error fault => misuse fault.message 1
  | .ok given =>
    match given.value? '\x01', modes, given.operands with
    | some _, _ :: _, _ => misuse "cannot combine mode and --reference options" 1
    | some _, [], [] => misuse "missing operand" 1
    | some other, [], names =>
      match ← entryAt .look other with
      | .error cause => complain s!"failed to get attributes of {quotedName other}: {cause.wording}" 1
      | .ok (location, _) => change given (.sameAs location) names
    | none, [], [] => misuse "missing operand" 1
    | none, [], [mode] => misuse s!"missing operand after {quotedName mode}" 1
    | none, [], mode :: names => byMode given mode names
    | none, _ :: _, [] => misuse "missing operand" 1
    | none, modes, names => byMode given (Text.joined "," modes) names
where
  /-- Changes modes as a text says. -/
  byMode (given : Invocation) (mode : String) (names : List String) : Work Unit := do
    match modeSteps? mode with
    | none => misuse s!"invalid mode: {quotedName mode}" 1
    | some steps => change given (.steps steps) names
  /-- Changes modes. -/
  change (given : Invocation) (source : ModeSource) (names : List String) : Work Unit :=
    names.forM fun name => do
      let refused (message : String) : Work Unit := do
        fail 1
        if !given.has 'f' then complain message 1
        if given.has 'v' then say s!"{quotedName name} could not be accessed\n"
      match ← entryAt .look name, ← entryAt .entry name with
      | .error .notFound, .ok (_, .link _) =>
        refused s!"cannot operate on dangling symlink {quotedName name}"
      | .error cause, _ => refused s!"cannot access {quotedName name}: {cause.wording}"
      | .ok (location, entry), _ =>
        if given.has 'R' && location.isEmpty && given.last? ['\x02', '\x03'] == some '\x02' then
          let same := if name == "/" then "" else " (same as '/')"
          complain s!"it is dangerous to operate recursively on {quotedName name}{same}" 1
          complain "use --no-preserve-root to override this failsafe" 1
        else
          let tree := (← get).disk.tree
          let below := if given.has 'R' then tree.below location else []
          changeMode given source name location entry
          below.forM fun (other, entry) => do
            let names := (other.take (other.length - location.length)).reverse.map Octets.ofText
            changeMode given source (insideName name (Text.joined "/" names)) other entry

end JavaStubs.Host

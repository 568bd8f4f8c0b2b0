import JavaStubs.Shell.Variables
import JavaStubs.Host.Condition

namespace JavaStubs.Shell

namespace Builtin

/-! ## Printing -/

def echo (arguments : List String) : Act Int := do
  let (plain, words) := match arguments with
    | "-n" :: rest => (true, rest)
    | words => (false, words)
  let (text, ends) := Host.unescaped .scriptText (Text.joined " " words)
  Act.say (if plain || ends then text else text ++ "\n")
  return 0

/-- Prints its arguments by a format. -/
def printf (arguments : List String) : Act Int := do
  match (← withOptions "" "" arguments).operands with
  | [] => Act.fail "usage: printf format [arg ...]"
  | format :: arguments =>
    let done := Host.formatted .script format arguments
    done.printed.forM fun
      | .out text => Act.say text
      | .err message => Act.report message
    return done.code

def test (words : List String) : Act Int := do
  match Host.Condition.holds (← get).disk words with
  | .ok holds => return if holds then 0 else 1
  | .error fault => Act.fail fault.scriptMessage

/-- Tells whether a condition in brackets holds. -/
def bracket (words : List String) : Act Int := do
  if !(words.getLast?.getD "").startsWith "]" then Act.fail "missing ]"
  test words.dropLast

/-! ## Directories -/

/-- The path that leads from a directory along a path, read without regard to links. -/
def pathFrom (directory path : String) : String :=
  let whole := if path.startsWith "/" then path else directory ++ "/" ++ path
  "/" ++ Text.joined "/" (Path.normalNames true [] (Path.namesOf whole))

/-- The present directory, by the way that led there. -/
def directory : Act String := do
  let session ← get
  let physical := Octets.ofText session.disk.here.path.text
  match ← Act.valueOf? "PWD" with
  | some path =>
    return match session.disk.follow .look (Octets.toText path) with
      | .ok (.entry location .directory) =>
        if location = session.disk.here && path.startsWith "/" then path else physical
      | _ => physical
  | none => return physical

/-- Goes to a directory. -/
def cd (arguments : List String) : Act Int := do
  let given ← withOptions "LP" "" arguments
  let isPhysical := given.last? ['L', 'P'] == some 'P'
  let old ← directory
  let target ← match given.operands.head? with
    | some "-" => pure ((← Act.valueOf? "OLDPWD").getD "")
    | some target => pure target
    | none => pure ((← Act.valueOf? "HOME").getD "")
  let path := if isPhysical then target else pathFrom old target
  match (← get).disk.follow .look (Octets.toText path) with
  | .ok (.entry location .directory) =>
    if !(← get).disk.enters location then Act.fail s!"can't cd to {target}"
    modify fun session => { session with disk := { session.disk with here := location } }
    let new := if isPhysical then Octets.ofText location.path.text else path
    Act.putVariable "OLDPWD" (some ⟨some old, true, false⟩)
    Act.putVariable "PWD" (some ⟨some new, true, false⟩)
    if given.operands.head? = some "-" then Act.say (new ++ "\n")
    return 0
  | _ => Act.fail s!"can't cd to {target}"

def pwd (arguments : List String) : Act Int := do
  let given ← withOptions "LP" "" arguments
  if given.last? ['L', 'P'] == some 'P' then
    Act.say (Octets.ofText (← get).disk.here.path.text ++ "\n")
  else Act.say ((← directory) ++ "\n")
  return 0

/-! ## Signals -/

/-- The names of the signals from one on. -/
def signalNames : List String :=
  ["HUP", "INT", "QUIT", "ILL", "TRAP", "ABRT", "BUS", "FPE", "KILL", "USR1", "SEGV", "USR2", "PIPE",
    "ALRM", "TERM", "STKFLT", "CHLD", "CONT", "STOP", "TSTP", "TTIN", "TTOU", "URG", "XCPU", "XFSZ",
    "VTALRM", "PROF", "WINCH", "IO", "PWR", "SYS", "32", "33", "RTMIN"] ++
  (List.range 15).map (fun n => s!"RTMIN+{n + 1}") ++
  (List.range 14).map (fun n => s!"RTMAX-{14 - n}") ++ ["RTMAX"]

def signal? (text : String) : Option Nat :=
  if !text.isEmpty && text.toList.all Char.isDigit then text.toNat?.filter (· ≤ signalNames.length)
  else if text == "EXIT" then some 0
  else (signalNames.findIdx? (·.toLower == text.toLower)).map (· + 1)

def signalName (number : Nat) : String :=
  if number = 0 then "EXIT" else (signalNames[number - 1]?).getD ""

/-- The signals that do nothing by themselves. -/
def idleSignals : List Nat := [0, 17, 18, 23, 28]

/-- The number of the shell among the programs that run. -/
def ownNumber : String := "2"

/-- The signals that make a program halt. -/
def haltSignals : List Nat := [19, 20, 21, 22]

/-- Sends a signal to the shell, or to a command in the background, which `toJob` does for its
number. -/
def send (toJob : Nat → Nat → Act Bool) (signal : Nat) (target : String) : Act Int := do
  let session ← get
  if target == ownNumber then
    if signal ≠ 0 then
      let traps := if session.isSubshell then session.outerTraps else session.traps
      match traps.lookup (signalName signal), signal == 9 with
      | some action, false =>
        if !action.isEmpty then modify fun session => { session with
          signals := signal :: session.signals }
      | _, _ => if !idleSignals.contains signal then throw (.killed signal)
    return 0
  if !target.startsWith "%" then
    if ← toJob signal (← numberOf target) then return 0
  Act.report "No such process\n"
  return 1

def signalUsage {α : Type} : Act α :=
  Act.fail ("Usage: kill [-s sigspec | -signum | -sigspec] [pid | job]... or\n" ++
    "kill -l [exitstatus]")

/-- Tells the name of a signal, or all. -/
def listSignals (arguments : List String) : Act Int := do
  match arguments with
  | [] => ("0" :: signalNames).forM fun name => Act.say (name ++ "\n")
  | text :: _ =>
    let n ← numberOf text
    let number := if 128 < n then n - 128 else n
    if number = 0 || signalNames.length < number then
      Act.fail s!"invalid signal number or exit status: {text}"
    Act.say (signalName number ++ "\n")
  return 0

/-- Sends signals. -/
def kill (toJob : Nat → Nat → Act Bool) (arguments : List String) : Act Int := do
  let sendAll (signal : Nat) (targets : List String) : Act Int := do
    if targets.isEmpty then signalUsage
    let states ← targets.mapM (send toJob signal)
    return (states.getLast?).getD 0
  match arguments with
  | [] => signalUsage
  | first :: rest =>
    if !first.startsWith "-" then sendAll 15 arguments
    else match signal? (String.ofList (first.toList.drop 1)) with
      | some signal => sendAll signal rest
      | none =>
        let given ← withOptions "l" "s" arguments
        if given.has 'l' then listSignals given.operands
        else match given.value? 's' with
          | none => sendAll 15 given.operands
          | some name =>
            match signal? name with
            | some signal => sendAll signal given.operands
            | none => Act.fail s!"invalid signal number or name: {name}"

/-- Sets what is done at signals, up to the first that is none. -/
def setTraps (action : Option String) : List String → Act Int
  | [] => return 0
  | text :: rest => do
    match signal? text with
    | none =>
      let _ ← Act.print 2 s!"trap: {text}: bad trap\n"
      return 1
    | some number =>
      modify fun session =>
        let others := session.traps.filter (·.1 != signalName number)
        { session with traps := match action with
            | some action => (signalName number, action) :: others
            | none => others }
      setTraps action rest

/-- Tells or sets what is done at signals and at the end. -/
def trap (arguments : List String) : Act Int := do
  let given ← withOptions "" "" arguments
  match given.operands with
  | [] =>
    let all := "EXIT" :: signalNames
    all.forM fun name => do
      if let some action := (← get).traps.lookup name then
        Act.say s!"trap -- {quoted action} {name}\n"
    return 0
  | [signal] => setTraps none [signal]
  | action :: signals =>
    if !action.isEmpty && action.toList.all Char.isDigit then setTraps none given.operands
    else setTraps (if action == "-" then none else some action) signals

/-! ## Other settings -/

/-- The rights of three bits, by letters. -/
def rightsOf (bits : Nat) : String :=
  String.ofList ([('r', 4), ('w', 2), ('x', 1)].filterMap fun (letter, bit) =>
    if bits / bit % 2 = 1 then some letter else none)

/-- The rights that a clause of users, a sign and letters leaves of some rights. -/
def changedRights (rights : Nat) (clause : List Char) : Option Nat :=
  let users := clause.takeWhile "ugoa".toList.contains
  match clause.drop users.length with
  | sign :: letters =>
    if !"+-=".toList.contains sign || !letters.all "rwxXst".toList.contains then none
    else
      let all := users.isEmpty || users.contains 'a'
      let has (letter : Char) (bit : Nat) : Nat := if letters.contains letter then bit else 0
      let bits := has 'r' 4 + has 'w' 2 + has 'x' 1
      let one (user : Char) (weight : Nat) : Nat :=
        let old := rights / weight % 8
        let new := match sign with
          | '+' => Nat.lor old bits
          | '-' => old - Nat.land old bits
          | _ => bits
        weight * (if all || users.contains user then new else old)
      some (one 'u' 64 + one 'g' 8 + one 'o' 1)
  | [] => none

/-- Tells or sets which rights new files are denied. -/
def umask (arguments : List String) : Act Int := do
  let given ← withOptions "S" "" arguments
  let mask := (← get).disk.mask
  let change (mask : Nat) : Act Unit :=
    modify fun session => { session with disk := { session.disk with mask } }
  let rights (mask weight : Nat) : String := rightsOf (7 - mask / weight % 8)
  match given.operands with
  | [] =>
    if given.has 'S' then
      Act.say s!"u={rights mask 64},g={rights mask 8},o={rights mask 1}\n"
    else
      let digits := Nat.toDigits 8 mask
      Act.say (String.ofList (List.replicate (4 - digits.length) '0' ++ digits ++ ['\n']))
  | mode :: _ =>
    if (mode.toList.head?).any Char.isDigit then
      if !mode.toList.all fun c => '0' ≤ c && c ≤ '7' then Act.fail s!"Illegal number: {mode}"
      let value := mode.toList.foldl (fun n c => 8 * n + (c.toNat - '0'.toNat)) 0
      change (value % 512)
    else
      let clauses := (Text.fieldsOf ',' mode).map String.toList
      match clauses.foldlM changedRights (511 - mask) with
      | some rights => change (511 - rights)
      | none => Act.fail s!"Illegal mode: {mode}"
  return 0

def times (_ : List String) : Act Int := do
  let line := "0m0.000000s 0m0.000000s\n"
  Act.say (line ++ line)
  return 0

/-- The path of a program, as it is found in the directories of the search path. -/
def programPath? (name : String) : Act (Option String) := do
  let disk := (← get).disk
  let isProgram (path : String) : Bool :=
    match disk.follow .look (Octets.toText path) with
    | .ok (.entry location entry) => entry.isFile && Host.Condition.isRunnable disk (location, entry)
    | _ => false
  if name.toList.contains '/' then return if isProgram name then some name else none
  let paths := (Text.fieldsOf ':' (← Act.searchPath)).map fun directory =>
    if directory.isEmpty then name else directory ++ "/" ++ name
  return paths.find? isProgram

/-- The builtin commands, with those that are part of the language. -/
def names : List String :=
  Reading.specialNames ++ ["[", "alias", "bg", "cd", "chdir", "command", "echo", "false", "fg",
    "getopts", "hash", "jobs", "kill", "printf", "pwd", "read", "test", "true", "type", "ulimit",
    "umask", "unalias", "wait"]

/-- A word that stands for a text, as it is told. -/
def aliasText (name text : String) : String := name ++ "=" ++ quoted text

/-- Refuses a word that stands for no text. -/
def unknownWord (command word : String) : Act Int := do
  let _ ← Act.print 2 s!"{command}: {word} not found\n"
  return 1

/-- Lets words stand for texts, or tells the texts that they stand for. -/
def alias_ (words : List String) : Act Int := do
  let told (name text : String) : Act Int := do
    Act.say (aliasText name text ++ "\n")
    return 0
  if words.isEmpty then
    let aliases := (← get).aliases
    (List.range Act.groups).forM fun group => aliases.forM fun (name, text) => do
      if Act.groupOf name == group then let _ ← told name text
    return 0
  let states ← words.mapM fun word => do
    let (name, rest) := Text.cutAt (· == '=') (word.toList.drop 1)
    let name := String.ofList (word.toList.take 1 ++ name)
    if name == word then
      match (← get).aliases.lookup word with
      | some text => told word text
      | none => unknownWord "alias" word
    else
      let text := String.ofList rest
      modify fun session =>
        let aliases := session.aliases
        { session with aliases := if aliases.any (·.1 == name) then
            aliases.map fun (other, old) => (other, if other == name then text else old)
          else aliases ++ [(name, text)] }
      return 0
  return (states.find? (· ≠ 0)).getD 0

/-- Lets words no longer stand for texts. -/
def unalias (words : List String) : Act Int := do
  let given ← withOptions "a" "" words
  if given.has 'a' then
    modify fun session => { session with aliases := [] }
    return 0
  let states ← given.operands.mapM fun word => do
    if !(← get).aliases.any (·.1 == word) then return ← unknownWord "unalias" word
    modify fun session => { session with aliases := session.aliases.filter (·.1 != word) }
    return 0
  return (states.find? (· ≠ 0)).getD 0

/-- Tells what a word means as a command. -/
def describe (verbose : Bool) (word : String) : Act Int := do
  let tell (long short : String) : Act Int := do
    Act.say ((if verbose then word ++ long else short) ++ "\n")
    return 0
  if Token.keywords.contains word then tell " is a shell keyword" word
  else if let some text := (← get).aliases.lookup word then
    tell s!" is an alias for {text}" ("alias " ++ aliasText word text)
  else if (← get).functions.any (·.1 == word) then tell " is a shell function" word
  else if Reading.specialNames.contains word then tell " is a special shell builtin" word
  else if names.contains word then tell " is a shell builtin" word
  else match ← programPath? word with
    | some path => tell s!" is {path}" path
    | none =>
      if verbose then Act.say (word ++ ": not found\n")
      return 127

def type_ (words : List String) : Act Int := do
  let states ← words.mapM (describe true)
  return if states.contains 127 then 127 else 0

def hash (arguments : List String) : Act Int := do
  let given ← withOptions "rv" "" arguments
  let states ← given.operands.mapM fun name => do
    if (names.contains name) || (← programPath? name).isSome then return 0
    Act.report s!"{name}: not found"
    return 1
  return if states.contains (1 : Int) then 1 else 0


/-- The builtin commands by name. -/
def find? (name : String) : Option (List String → Act Int) :=
  match name with
  | ":" => some fun _ => return 0
  | "true" => some fun _ => return 0
  | "false" => some fun _ => return 1
  | "[" => some bracket
  | "test" => some test
  | "echo" => some echo
  | "printf" => some printf
  | "cd" => some cd
  | "chdir" => some cd
  | "pwd" => some pwd
  | "set" => some set_
  | "shift" => some shift
  | "export" => some export_
  | "readonly" => some readonly
  | "unset" => some unset
  | "local" => some local_
  | "read" => some read
  | "getopts" => some getopts
  | "trap" => some trap
  | "umask" => some umask
  | "times" => some times
  | "type" => some type_
  | "hash" => some hash
  | "ulimit" => some fun _ => do
    Act.say "unlimited\n"
    return 0
  | "alias" => some alias_
  | "unalias" => some unalias
  | "fg" => some fun _ => Act.fail "No current job"
  | "bg" => some fun _ => Act.fail "No current job"
  | _ => none

end Builtin
end JavaStubs.Shell

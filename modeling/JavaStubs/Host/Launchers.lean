import JavaStubs.Host.BasicTools

namespace JavaStubs.Host

namespace Work

/-- Runs the program at a path, with what is left of the input. -/
def launch (start : Starter) (path name : String) (arguments : List String)
    (environment : Environment) : Work (Except OsCause Unit) := do
  let working ← get
  let call : Call := ⟨name, arguments, environment, working.input, working.call.origin⟩
  let result := match start path call working.disk with
    | .error (.other 8 _) =>
      let shell := "/bin/sh"
      start shell { call with name := shell, arguments := path :: arguments } working.disk
    | result => result
  match result with
  | .error cause => return .error cause
  | .ok finish =>
    set { working with
      disk := working.disk.leftBy finish.disk
      printed := finish.printed.reverse ++ working.printed
      input := finish.rest
      code := finish.code }
    return .ok ()

/-- Where programs are searched if the environment does not say it. -/
def searchPath : String := "/bin:/usr/bin"

/-- Runs the first program among paths that can be run; `met` is the obstacle that counts so far. -/
def launchFirst (start : Starter) (name : String) (arguments : List String)
    (environment : Environment) (met : OsCause) : List String → Work (Except OsCause Unit)
  | [] => return .error met
  | path :: rest => do
    match ← launch start path name arguments environment with
    | .ok () => return .ok ()
    | .error cause =>
      let met := if cause = .denied then .denied else met
      launchFirst start name arguments environment met rest

def launchNamed (start : Starter) (name : String) (arguments : List String)
    (environment : Environment) : Work (Except OsCause Unit) :=
  if name.isEmpty then return .error .notFound
  else if name.toList.contains '/' then launch start name name arguments environment
  else
    let directories := Text.fieldsOf ':' ((environment.lookup "PATH").getD searchPath)
    launchFirst start name arguments environment .notFound (directories.map fun directory =>
      if directory.isEmpty then name else directory ++ "/" ++ name)

/-- The code of a program that cannot be run. -/
def launchFailure : OsCause → Int
  | .notFound => 127
  | _ => 126

/-- Runs a program by its name, or complains. -/
def launchOrComplain (start : Starter) (words : List String) (environment : Environment)
    (shown : String → String) : Work Unit := do
  match words with
  | [] => return
  | name :: arguments =>
    match ← launchNamed start name arguments environment with
    | .ok () => return
    | .error cause => complain s!"{shown name}: {cause.wording}" (launchFailure cause)

end Work

open Work

/-! ## Environments -/

/-- Why a text is not split into words. -/
inductive SplitFault where
  | expansion (rest : String)
  | escape (c : Char)
  | unclosed
  | lastBackslash
  deriving DecidableEq, Repr

def SplitFault.message : SplitFault → String
  | .expansion rest => "only $\x7bVARNAME\x7d expansion is supported, error at: " ++ rest
  | .escape c => s!"invalid sequence '\\{c}' in -S"
  | .unclosed => "no terminating quote in -S string"
  | .lastBackslash => "invalid backslash at end of string in -S"

/-- Letters that stand for a character when they are escaped. -/
def plainEscapes : List (Char × Char) :=
  [('f', '\x0c'), ('n', '\n'), ('r', '\x0d'), ('t', '\t'), ('v', '\x0b')]

/-- The words of a text with quotes, escapes and variables in braces. `word` is the present one, the
last character first, and `quote` is the open quotation mark; `fuel` is more than the length of the
text. -/
def splitWords (valueOf : String → Option String) (quote : Option Char)
    (word : Option (List Char)) : Nat → List Char → Except SplitFault (List String)
  | 0, _ => .ok []
  | _ + 1, [] =>
    if quote.isSome then .error .unclosed
    else .ok (word.toList.map fun chars => String.ofList chars.reverse)
  | fuel + 1, c :: rest =>
    let grown (chars : List Char) := some (chars.reverse ++ word.getD [])
    let same (chars rest : List Char) := splitWords valueOf quote (grown chars) fuel rest
    let ended (rest : List Char) := do
      let more ← splitWords valueOf none none fuel rest
      return word.toList.map (fun chars => String.ofList chars.reverse) ++ more
    let isBlank (c : Char) := c == ' ' || ('\x09' ≤ c && c ≤ '\x0d')
    if c == '\\' then
      match rest with
      | [] => .error .lastBackslash
      | e :: rest =>
        if quote == some '\'' then
          if e == '\'' || e == '\\' then same [e] rest else same ['\\', e] rest
        else if e == '_' then if quote.isSome then same [' '] rest else ended rest
        else if e == 'c' then
          if quote.isSome then .error (.escape e)
          else .ok (word.toList.map fun chars => String.ofList chars.reverse)
        else match List.lookup e plainEscapes with
          | some plain => same [plain] rest
          | none =>
            if "#$\"\\'".toList.contains e then same [e] rest else .error (.escape e)
    else if quote == some c then splitWords valueOf none (grown []) fuel rest
    else if quote == none && (c == '"' || c == '\'') then
      splitWords valueOf (some c) (grown []) fuel rest
    else if c == '$' && quote != some '\'' then
      match rest with
      | '\x7b' :: more =>
        let name := more.takeWhile fun d => d.isAlphanum || d == '_'
        match more.drop name.length with
        | '\x7d' :: rest => same ((valueOf (String.ofList name)).getD "").toList rest
        | _ => .error (.expansion (String.ofList (c :: rest)))
      | _ => .error (.expansion (String.ofList (c :: rest)))
    else if quote == none && isBlank c then ended rest
    else if quote == none && word.isNone && c == '#' then .ok []
    else same [c] rest

/-- The settings in front of a command, and the command. -/
def settingsOf : List String → List (String × String) × List String
  | [] => ([], [])
  | word :: rest =>
    if word.toList.contains '=' then
      let (name, value) := Text.cutAt (· == '=') word.toList
      let (more, command) := settingsOf rest
      ((String.ofList name, String.ofList value) :: more, command)
    else ([], word :: rest)

def envOptions : OptionTable :=
  options "i0v" "uCS" [("ignore-environment", 'i'), ("null", '0'), ("unset", 'u'),
    ("chdir", 'C'), ("split-string", 'S'), ("debug", 'v')]

/-- What arguments say, with those in a text to be split put in its place; `fuel` is at least the
number of such texts. -/
def envInvocation (valueOf : String → Option String) : Nat → List String →
    Except (String × Bool) Invocation
  | 0, _ => .ok ⟨[], []⟩
  | fuel + 1, arguments => do
    let given ← (envOptions.readLeading arguments).mapError fun fault => (fault.message, true)
    match given.options.findIdx? (·.1 == 'S') with
    | none => return given
    | some place =>
      let text := ((given.options[place]?).map Prod.snd).getD ""
      let words ← (splitWords valueOf none none (text.length + 1) text.toList).mapError
        fun fault => (fault.message, false)
      let more ← envInvocation valueOf fuel (words ++ given.operands)
      return { more with options := given.options.take place ++ more.options }

/-- Prints the environment, or runs a program in a changed one. -/
def env (start : Starter) : Work Unit := do
  let call := (← get).call
  match envInvocation (List.lookup · call.environment) (call.arguments.length + 1) call.arguments with
  | .error (message, refers) =>
    complain message 125
    if refers then referToHelp 125
  | .ok given =>
    let dropsAll := given.has 'i' || given.operands.head? = some "-"
    let operands := given.operands.drop (if given.operands.head? = some "-" then 1 else 0)
    let dropped := if dropsAll then [] else
      (given.options.filter (·.1 == 'u')).map Prod.snd
    let debugs := given.has 'v'
    let tell (message : String) : Work Unit := if debugs then sayError (message ++ "\n") else return
    if dropsAll then tell "cleaning environ"
    match dropped.find? fun name => name.isEmpty || name.contains '=' with
    | some name => complain s!"cannot unset {quotedName name}: Invalid argument" 125
    | none =>
      dropped.forM fun name => tell ("unset:    " ++ name)
      let old := if dropsAll then [] else call.environment
      let kept : Environment := old.filter fun (name, _) => !dropped.contains name
      let (settings, command) := settingsOf operands
      settings.forM fun (name, value) => tell ("setenv:   " ++ name ++ "=" ++ value)
      let environment := kept.setAll settings
      match command with
      | [] =>
        if given.has 'C' then misuse "must specify command with --chdir (-C)" 125
        else
          let ending := if given.has '0' then "\x00" else "\n"
          environment.forM fun (name, value) => say (name ++ "=" ++ value ++ ending)
      | name :: arguments =>
        if given.has '0' then misuse "cannot specify --null (-0) with command" 125
        else
          let here := (← get).disk.here
          if ← entered (given.value? 'C') tell then
            tell ("executing: " ++ name)
            command.zipIdx.forM fun (word, place) =>
              tell (s!"   arg[{place}]= " ++ quotedName word)
            match ← launchNamed start name arguments environment with
            | .ok () => return
            | .error cause =>
              complain s!"{quotedName name}: {cause.wording}" (launchFailure cause)
              if cause = .notFound && name.contains ' ' then
                complain "use -[v]S to pass options in shebang lines" 127
            modify fun working => { working with disk := { working.disk with here } }
where
  /-- Goes to a directory, if one is given; whether that is possible. -/
  entered (directory : Option String) (tell : String → Work Unit) : Work Bool := do
    match directory with
    | none => return true
    | some name =>
      tell ("chdir:    " ++ quotedName name)
      match ← entryAt .look name with
      | .ok (location, .directory) =>
        modify fun working => { working with disk := { working.disk with here := location } }
        return true
      | .ok _ =>
        complain s!"cannot change directory to {quotedName name}: Not a directory" 125
        return false
      | .error cause =>
        complain s!"cannot change directory to {quotedName name}: {cause.wording}" 125
        return false

/-! ## Limits -/

/-- The adjustments that arguments give, the last of them, and the command behind them; `fuel` is at
least the number of arguments. -/
def adjustmentOf : Nat → List String → Except OptionFault (Option String × List String)
  | 0, arguments => .ok (none, arguments)
  | fuel + 1, arguments => do
    let first := (arguments.head?.getD "").toList
    let isShort := match first with
      | '-' :: c :: d :: _ => c.isDigit || ((c == '-' || c == '+') && d.isDigit)
      | ['-', c] => c.isDigit
      | _ => false
    if isShort then
      let (later, command) ← adjustmentOf fuel (arguments.drop 1)
      return (later.orElse fun _ => some (String.ofList (first.drop 1)), command)
    let given ← (options "" "n" [("adjustment", 'n')]).readLeading arguments
    match given.value? 'n' with
    | some text =>
      let (later, command) ← adjustmentOf fuel given.operands
      return (later.orElse fun _ => some text, command)
    | none => return (none, given.operands)

/-- Runs a program at another priority, which changes nothing that it prints. -/
def nice (start : Starter) : Work Unit := do
  let call := (← get).call
  match adjustmentOf (call.arguments.length + 1) call.arguments with
  | .error fault => misuse fault.message 125
  | .ok (adjustment, command) =>
    let wrong := adjustment.filter fun text =>
      (signAndRest text.toList).2.isEmpty || !(signAndRest text.toList).2.all Char.isDigit
    match wrong, command with
    | some text, _ => complain s!"invalid adjustment {quotedName text}" 125
    | none, [] =>
      if adjustment.isSome then misuse "a command must be given with an adjustment" 125
      else say "0\n"
    | none, command => launchOrComplain start command call.environment quotedName

/-- The wording of a command that cannot be run. -/
def notRun (name : String) : String := s!"failed to run command {quotedName name}"

/-- Runs a program that goes on when nobody watches any more. -/
def nohup (start : Starter) : Work Unit := do
  match (options "" "" []).readLeading (← get).call.arguments with
  | .error fault => misuse fault.message 125
  | .ok given =>
    if given.operands.isEmpty then misuse "missing operand" 125
    else launchOrComplain start given.operands (← get).call.environment notRun

def isSignal (text : String) : Bool :=
  let name := text.toUpper
  let name := if name.startsWith "SIG" then (name.drop 3).toString else name
  (text.toNat?.any (· < 65)) || ["EXIT", "HUP", "INT", "QUIT", "ILL", "TRAP", "ABRT", "BUS", "FPE",
    "KILL", "USR1", "SEGV", "USR2", "PIPE", "ALRM", "TERM", "STKFLT", "CHLD", "CONT", "STOP", "TSTP",
    "TTIN", "TTOU", "URG", "XCPU", "XFSZ", "VTALRM", "PROF", "WINCH", "POLL", "PWR", "SYS"].contains
      name

/-- Runs a program for some time at most. Programs take no time here, so that none is ended. -/
def timeout (start : Starter) : Work Unit := do
  let table := options "v\x01\x02" "ks" [("kill-after", 'k'), ("signal", 's'), ("verbose", 'v'),
    ("foreground", '\x01'), ("preserve-status", '\x02')]
  match table.readLeading (← get).call.arguments with
  | .error fault => misuse fault.message 125
  | .ok given =>
    let wrong := given.options.filterMap fun (letter, value) =>
      if letter == 'k' && !isInterval value then
        some s!"invalid time interval {quotedName value}"
      else if letter == 's' && !isSignal value then some s!"{quotedName value}: invalid signal"
      else none
    match wrong, given.operands with
    | message :: _, _ => misuse message 125
    | [], duration :: name :: arguments =>
      if !isInterval duration then misuse s!"invalid time interval {quotedName duration}" 125
      else
        let time := spanOf duration
        let isSleep := Text.afterLast '/' name.toList == "sleep".toList && arguments.all isInterval
        if isSleep && 0 < time && time < (arguments.map spanOf).foldl (· + ·) 0 then fail 124
        else launchOrComplain start (name :: arguments) (← get).call.environment notRun
    | [], _ => referToHelp 125

end JavaStubs.Host

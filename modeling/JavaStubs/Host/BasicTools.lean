import JavaStubs.Host.Condition
import JavaStubs.Host.Format
import JavaStubs.Host.Inputs

namespace JavaStubs.Host

open Work

/-! ## Saying -/

/-- The letters of the options in front of what is echoed, and the rest. -/
def echoOptions : List String → List Char × List String
  | [] => ([], [])
  | text :: rest =>
    match text.toList with
    | '-' :: c :: more =>
      if (c :: more).all "neE".toList.contains then
        let (letters, rest) := echoOptions rest
        (c :: more ++ letters, rest)
      else ([], text :: rest)
    | _ => ([], text :: rest)

def echo : Work Unit := do
  let (letters, words) := echoOptions (← get).call.arguments
  let text := Text.joined " " words
  let escapes := (letters.filter (· != 'n')).getLast? == some 'e'
  let (text, ends) := if escapes then unescaped .echo text else (text, false)
  say (if ends || letters.contains 'n' then text else text ++ "\n")

/-- Prints its arguments by a format. -/
def printf : Work Unit := do
  let arguments := (← get).call.arguments
  match if arguments.head? = some "--" then arguments.drop 1 else arguments with
  | [] => misuse "missing operand" 1
  | format :: arguments =>
    let done := formatted .program format arguments
    done.printed.forM fun
      | .out text => say text
      | .err message => complain message 0
    if let next :: _ := done.arguments then
      complain s!"warning: ignoring excess arguments, starting with {quotedName next}" 0
    fail done.code

/-- Prints a line again and again; it is cut off where nobody reads any further. -/
def yes : Work Unit := do
  let words := (← get).call.arguments
  let line := (if words.isEmpty then "y" else Text.joined " " words) ++ "\n"
  say (Text.repeated line 4096)

/-! ## Conditions -/

/-- Whether a condition of one operator and one word holds. -/
def holdsTwo (disk : Disk) (first second : String) : Except String Bool :=
  if first == "!" then .ok second.isEmpty
  else match first.toList with
    | ['-', _] =>
      if operatorKind? first == some .unary then
        (Condition.holdsUnary disk first second).mapError ConditionFault.message
      else .error s!"{quotedName first}: unary operator expected"
    | _ => .error s!"missing argument after {quotedName second}"

/-- Whether the condition that words state holds. -/
def holds (disk : Disk) (words : List String) : Except String Bool :=
  let general := (Condition.general disk words).mapError ConditionFault.message
  match words with
  | [] => .ok false
  | [word] => .ok (!word.isEmpty)
  | [first, second] => holdsTwo disk first second
  | [first, operator, last] =>
    if operatorKind? operator == some .binary then
      (Condition.holdsBinary disk first operator last).mapError ConditionFault.message
    else if first == "!" then (holdsTwo disk operator last).map (!·)
    else if first == "(" && last == ")" then .ok (!operator.isEmpty)
    else if operator == "-a" || operator == "-o" then general
    else .error s!"{quotedName operator}: binary operator expected"
  | _ => general

def testWords (words : List String) : Work Unit := do
  match holds (← get).disk words with
  | .ok true => fail 0
  | .ok false => fail 1
  | .error message => complain message 2

/-- Tells whether the condition that the arguments state holds. -/
def condition : Work Unit := do testWords (← get).call.arguments

/-- Tells whether the condition that the arguments state in a bracket holds. -/
def bracketed : Work Unit := do
  let words := (← get).call.arguments
  if words.getLast? = some "]" then testWords words.dropLast else complain "missing ']'" 2

/-! ## Names -/

def extraOperand (operand : String) (code : Int) : Work Unit :=
  misuse s!"extra operand {quotedName operand}" code

/-- A name without the separators at its end. -/
def withoutEnd (name : String) : List Char :=
  let kept := Text.dropTrailing (· == '/') name.toList
  if kept.isEmpty then name.toList.take 1 else kept

/-- The last part of a name, without an ending. -/
def baseOf (ending name : String) : String :=
  let last := withoutEnd name
  let last := if last == ['/'] then last else Text.afterLast '/' last
  let ending := ending.toList
  if ending.length < last.length && ending.isSuffixOf last then
    String.ofList (last.take (last.length - ending.length))
  else String.ofList last

/-- Prints the last parts of names. -/
def basename : Work Unit := do
  let table := options "az" "s" [("multiple", 'a'), ("suffix", 's'), ("zero", 'z')]
  match table.readLeading (← get).call.arguments with
  | .error fault => misuse fault.message 1
  | .ok given =>
    let ending := if given.has 'z' then "\x00" else "\n"
    let many := given.has 'a' || given.has 's'
    match given.operands, many with
    | [], _ => misuse "missing operand" 1
    | names, true =>
      let tail := (given.value? 's').getD ""
      names.forM fun name => say (baseOf tail name ++ ending)
    | [name], false => say (baseOf "" name ++ ending)
    | [name, tail], false => say (baseOf tail name ++ ending)
    | _ :: _ :: extra :: _, false => extraOperand extra 1

/-- The part of a name before its last one. -/
def directoryOf (name : String) : String :=
  let kept := withoutEnd name
  if kept == ['/'] then "/"
  else if !kept.contains '/' then "."
  else String.ofList (withoutEnd (String.ofList (Text.beforeLast '/' kept ++ ['/'])))

/-- Prints the parts of names before the last ones. -/
def dirname : Work Unit :=
  withOptions (options "z" "" [("zero", 'z')]) 1 fun given => do
    let ending := if given.has 'z' then "\x00" else "\n"
    if given.operands.isEmpty then misuse "missing operand" 1
    given.operands.forM fun name => say (directoryOf name ++ ending)

/-- Prints the present directory. -/
def pwd : Work Unit :=
  withOptions (options "LP" "" [("logical", 'L'), ("physical", 'P')]) 1 fun given => do
    if !given.operands.isEmpty then complain "ignoring non-option arguments" 0
    let working ← get
    let physical := Octets.ofText working.disk.here.path.text
    let logical := (working.call.environment.lookup "PWD").filter fun path =>
      path.startsWith "/" && match working.disk.follow .look (Octets.toText path) with
        | .ok (.entry location .directory) => location == working.disk.here
        | _ => false
    say ((if given.has 'L' then logical.getD physical else physical) ++ "\n")

/-! ## The host -/

/-- Prints variables of the environment. -/
def printenv : Work Unit := do
  match (options "0" "" [("null", '0')]).readLeading (← get).call.arguments with
  | .error fault => misuse fault.message 2
  | .ok given =>
    let environment := (← get).call.environment
    let ending := if given.has '0' then "\x00" else "\n"
    if given.operands.isEmpty then
      environment.forM fun (name, value) => say (name ++ "=" ++ value ++ ending)
    given.operands.forM fun name => do
      match environment.lookup name with
      | some value => say (value ++ ending)
      | none => fail 1

/-- The number of seconds that a text may spell. -/
def isInterval (text : String) : Bool :=
  let chars := match text.toList.getLast? with
    | some c => if "smhd".toList.contains c then text.toList.dropLast else text.toList
    | none => []
  match chars with
  | '-' :: _ => false
  | chars => text == "infinity" || (floatingNumber (String.ofList chars)).2 == .whole

/-- The microseconds in a text of digits with or without a point, before the letter of a unit. -/
def spanOf (text : String) : Nat :=
  let digits := text.toList.takeWhile Char.isDigit
  let rest := text.toList.drop digits.length
  let (fraction, rest) := match rest with
    | '.' :: rest => (rest.takeWhile Char.isDigit, rest.dropWhile Char.isDigit)
    | rest => ([], rest)
  let number (digits : List Char) : Nat :=
    digits.foldl (fun n c => 10 * n + (c.toNat - '0'.toNat)) 0
  let scale := match rest with
    | ['m'] => 60
    | ['h'] => 3600
    | ['d'] => 86400
    | _ => 1
  scale * (number digits * 1000000 + number ((fraction ++ List.replicate 6 '0').take 6))

def sleep : Work Unit :=
  withOptions (options "" "" []) 1 fun given => do
    if given.operands.isEmpty then misuse "missing operand" 1
    let wrong := given.operands.filter (!isInterval ·)
    wrong.forM fun text => complain s!"invalid time interval {quotedName text}" 1
    if !wrong.isEmpty then referToHelp 1

/-- Prints what the system is. -/
def uname : Work Unit :=
  let table := options "asnrvmpio" "" [("all", 'a'), ("kernel-name", 's'), ("nodename", 'n'),
    ("kernel-release", 'r'), ("kernel-version", 'v'), ("machine", 'm'), ("processor", 'p'),
    ("hardware-platform", 'i'), ("operating-system", 'o')]
  withOptions table 1 fun given => do
    match given.operands with
    | operand :: _ => extraOperand operand 1
    | [] =>
      let facts := [('s', "Linux"), ('m', "x86_64"), ('p', "unknown"), ('i', "unknown"),
        ('o', "GNU/Linux")]
      let told := facts.filter fun (letter, _) => given.has letter
      say (Text.joined " " (if told.isEmpty then ["Linux"] else told.map Prod.snd) ++ "\n")

def arch : Work Unit := say "x86_64\n"

def hostname : Work Unit := say "localhost\n"

def nproc : Work Unit :=
  withOptions (options "\x01" "\x02" [("all", '\x01'), ("ignore", '\x02')]) 1 fun given => do
    match given.operands with
    | operand :: _ => extraOperand operand 1
    | [] => say "1\n"

def userId : Work Unit :=
  let table := options "ugGnr" "" [("user", 'u'), ("group", 'g'), ("groups", 'G'), ("name", 'n'),
    ("real", 'r')]
  withOptions table 1 fun given => do
    let one := given.has 'u' || given.has 'g' || given.has 'G'
    if !one then say "uid=0(root) gid=0(root) groups=0(root)\n"
    else say (if given.has 'n' then "root\n" else "0\n")

/-- Prints the name of who runs the program. -/
def whoami : Work Unit :=
  withOptions (options "" "" []) 1 fun given => do
    match given.operands with
    | operand :: _ => extraOperand operand 1
    | [] => say "root\n"

def tty : Work Unit := do
  if !(← get).call.arguments.contains "-s" then say "not a tty\n"
  fail 1

/-- Prints the paths of programs. -/
def which : Work Unit := do
  let working ← get
  let names := working.call.arguments.filter (!·.startsWith "-")
  let all := working.call.arguments.contains "-a"
  let standard := "/usr/local/sbin:/usr/local/bin:/usr/sbin:/usr/bin:/sbin:/bin"
  let directories := Text.fieldsOf ':' ((working.call.environment.lookup "PATH").getD standard)
  if names.isEmpty then fail 1
  names.forM fun name => do
    let paths := if name.toList.contains '/' then [name]
      else directories.map fun directory =>
        (if directory.isEmpty then "." else directory) ++ "/" ++ name
    let found := paths.filter fun path =>
      match working.disk.follow .look (Octets.toText path) with
      | .ok (.entry location entry) =>
        entry.isFile && Condition.isRunnable working.disk (location, entry)
      | _ => false
    if found.isEmpty then fail 1
    (if all then found else found.take 1).forM fun path => say (path ++ "\n")

end JavaStubs.Host

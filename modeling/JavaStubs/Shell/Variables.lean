import JavaStubs.Shell.Expansion
import JavaStubs.Host.Options

namespace JavaStubs.Shell

open Host (Invocation)

namespace Builtin

def withOptions (plain valued : String) (arguments : List String) : Act Invocation := do
  match (Host.options plain valued []).readLeading arguments with
  | .ok given => return given
  | .error (.unknownLetter letter) => Act.fail s!"Illegal option -{letter}"
  | .error (.noValue letter) => Act.fail s!"No arg for -{letter} option"
  | .error _ => Act.fail "Illegal option --"

def numberOf (text : String) : Act Nat := do
  match text.toNat?.filter fun n => n < Nat.pow 2 31 && text.toList.all Char.isDigit with
  | some n => return n
  | none => Act.fail s!"Illegal number: {text}"

/-- A text in quotes, for a script. -/
def quoted (text : String) : String :=
  let isQuote (c : Char) := c == '\''
  let rec runs : Nat → List Char → String
    | 0, _ => ""
    | _, [] => ""
    | fuel + 1, c :: rest =>
      let run := (c :: rest).takeWhile fun d => isQuote d == isQuote c
      let inside := String.ofList run
      (if isQuote c then "\"" ++ inside ++ "\"" else "'" ++ inside ++ "'") ++
        runs fuel ((c :: rest).drop run.length)
  if text.isEmpty then "''" else runs (text.length + 1) text.toList

/-! ## Marks of variables -/

def list (start : String) (choose : Variable → Bool) : Act Unit := do
  let chosen := (← get).bindings.filter (choose ·.2)
  (chosen.mergeSort fun a b => a.1 ≤ b.1).forM fun (name, held) =>
    Act.say (start ++ name ++ (match held.value with
      | some value => "=" ++ quoted value
      | none => "") ++ "\n")

/-- The name and the value in an argument. -/
def nameAndValue (argument : String) : String × Option String :=
  let (name, value) := Text.cutAt (· == '=') argument.toList
  (String.ofList name, if argument.toList.contains '=' then some (String.ofList value) else none)

/-- Refuses what cannot be the name of a variable. -/
def checkName (name : String) : Act Unit := do
  if !isName name then Act.fail s!"{name}: bad variable name"

/-- Marks variables, which may be given values as well. -/
def mark (name : String) (choose : Variable → Bool) (change : Variable → Variable)
    (arguments : List String) : Act Int := do
  let given ← withOptions "p" "" arguments
  if given.operands.isEmpty || given.has 'p' then
    list (name ++ " ") choose
    return 0
  given.operands.forM fun argument => do
    let (name, value) := nameAndValue argument
    checkName name
    if let some value := value then Act.setVariable name value
    let old := ((← get).bindings.lookup name).getD ⟨none, false, false⟩
    Act.putVariable name (some (change old))
  return 0

def export_ : List String → Act Int :=
  mark "export" Variable.isExported fun old => { old with isExported := true }

def readonly : List String → Act Int :=
  mark "readonly" Variable.isReadOnly fun old => { old with isReadOnly := true }

/-- Forgets variables or functions. What follows an equals sign is no part of a variable's name. -/
def unset (arguments : List String) : Act Int := do
  let given ← withOptions "fv" "" arguments
  given.operands.forM fun operand => do
    if given.last? ['f', 'v'] == some 'f' then
      modify fun session => { session with
        functions := session.functions.filter (·.1 != operand) }
    else
      let name := (nameAndValue operand).1
      checkName name
      if ((← get).bindings.lookup name).any Variable.isReadOnly then
        Act.fail s!"{name}: is read only"
      if name == "OPTIND" then Act.fail "Illegal number: "
      Act.putVariable name none
  return 0

/-- Makes variables local to the function that runs. -/
def local_ (arguments : List String) : Act Int := do
  if (← get).locals.isEmpty then Act.fail "not in a function"
  arguments.forM fun argument => do
    let (name, value) := nameAndValue argument
    checkName name
    let old := (← get).bindings.lookup name
    modify fun session => { session with locals := match session.locals with
        | [] => []
        | frame :: outer => (frame ++ [(name, old)]) :: outer }
    match value, old with
    | some value, _ => Act.setVariable name value
    | none, none => Act.putVariable name (some ⟨none, false, false⟩)
    | none, some _ => return
  return 0

/-! ## Options and arguments -/

/-- The options that have letters, by name. -/
def optionNames : List (String × Char) :=
  [("errexit", 'e'), ("noglob", 'f'), ("ignoreeof", 'I'), ("interactive", 'i'), ("monitor", 'm'),
    ("noexec", 'n'), ("stdin", 's'), ("xtrace", 'x'), ("verbose", 'v'), ("vi", 'V'), ("emacs", 'E'),
    ("noclobber", 'C'), ("allexport", 'a'), ("notify", 'b'), ("nounset", 'u'), ("privileged", 'p'),
    ("nolog", '1'), ("debug", '2')]

def turn (on : Bool) (letter : Char) : Act Unit := do
  if !(optionNames.any (·.2 == letter)) || letter.isDigit then Act.fail s!"Illegal option -{letter}"
  modify fun session =>
    let others := session.options.filter (· != letter)
    { session with options := if on then letter :: others else others }

/-- Turns an option on or off by name, or tells all options. -/
def turnNamed (on : Bool) (name : Option String) : Act Unit := do
  let session ← get
  match name with
  | none =>
    if on then Act.say "Current option settings\n"
    optionNames.forM fun (name, letter) =>
      let isOn := session.options.contains letter
      let gap := Text.repeated " " (16 - name.length)
      let state := if isOn then "on" else "off"
      let sign := if isOn then "-" else "+"
      Act.say (if on then s!"{name}{gap}{state}\n" else s!"set {sign}o {name}\n")
  | some name =>
    match optionNames.lookup name with
    | some letter =>
      modify fun session =>
        let others := session.options.filter (· != letter)
        { session with options := if on then letter :: others else others }
    | none =>
      let sign := if on then "-" else "+"
      Act.fail s!"Illegal option {sign}o {name}"

/-- Turns the options of letters that share a sign on or off, and gives the arguments behind them. -/
def turnLetters (on : Bool) : List Char → List String → Act (List String)
  | [], rest => return rest
  | 'o' :: letters, rest => do
    turnNamed on rest.head?
    turnLetters on letters (rest.drop 1)
  | letter :: letters, rest => do
    turn on letter
    turnLetters on letters rest

/-- Turns the options at the start of arguments on or off, and gives the arguments behind them, or
nothing if the arguments are not to be set. -/
def turnAll : Nat → List String → Act (Option (List String))
  | fuel + 1, argument :: rest => do
    match argument.toList with
    | ['-'] =>
      modify fun session => { session with
        options := session.options.filter fun letter => letter != 'x' && letter != 'v' }
      return if rest.isEmpty then none else some rest
    | ['-', '-'] => return some rest
    | '-' :: letters => turnAll fuel (← turnLetters true letters rest)
    | '+' :: letters => turnAll fuel (← turnLetters false letters rest)
    | _ => return some (argument :: rest)
  | _, _ => return none

/-- Tells all variables, or turns options on or off and sets the arguments. -/
def set_ (arguments : List String) : Act Int := do
  if arguments.isEmpty then list "" fun held => held.value.isSome
  else if let some arguments ← turnAll (arguments.length + 1) arguments then
    modify fun session => { session with arguments := arguments, optionPlace := .start }
  return 0

/-- Drops arguments. -/
def shift (arguments : List String) : Act Int := do
  let count ← match arguments with
    | text :: _ => numberOf text
    | [] => pure 1
  if (← get).arguments.length < count then Act.fail "can't shift that many"
  modify fun session => { session with
    arguments := session.arguments.drop count
    optionPlace := .start }
  return 0

/-- What the next option of arguments is. -/
inductive OptionStep where
  /-- No option is left. -/
  | finished (place : OptionPlace)
  /-- A letter that no option has. -/
  | unknown (letter : Char) (place : OptionPlace)
  /-- A letter whose option needs a value, which is missing. -/
  | valueless (letter : Char) (place : OptionPlace)
  /-- An option with its value, which is empty if it takes none. -/
  | taken (letter : Char) (value : String) (place : OptionPlace)

/-- Whether options have a letter, and if so whether it takes a value. -/
def takesValue? (letter : Char) : List Char → Option Bool
  | [] => none
  | c :: rest =>
    if c == letter then some (rest.head? == some ':')
    else match rest with
      | ':' :: rest => takesValue? letter rest
      | rest => takesValue? letter rest

/-- The option behind a place. -/
def nextOption (known : String) (all : List String) (place : OptionPlace) : OptionStep :=
  let inside := if place.next ≤ 1 then [] else
    match place.taken, all[place.next - 2]? with
    | some taken, some argument => argument.toList.drop taken
    | _, _ => []
  let (next, letters) : Nat × Option (List Char) := match inside, all[place.next - 1]? with
    | c :: rest, _ => (place.next, some (c :: rest))
    | [], some argument =>
      match argument.toList with
      | ['-', '-'] => (place.next + 1, none)
      | '-' :: c :: rest => (place.next + 1, some (c :: rest))
      | _ => (place.next, none)
    | [], none => (place.next, none)
  let size := ((all[next - 2]?).getD "").length
  match letters with
  | some (letter :: rest) =>
    let behind : OptionPlace := ⟨next, some (size - rest.length)⟩
    match takesValue? letter known.toList, rest, all[next - 1]? with
    | none, _, _ => .unknown letter behind
    | some false, _, _ => .taken letter "" behind
    | some true, [], some value => .taken letter value ⟨next + 1, none⟩
    | some true, [], none => .valueless letter ⟨next, none⟩
    | some true, rest, _ => .taken letter (String.ofList rest) ⟨next, none⟩
  | _ => .finished ⟨next, none⟩

/-- Takes the next option from arguments. -/
def getopts (arguments : List String) : Act Int := do
  match arguments with
  | known :: variableName :: given =>
    let session ← get
    let all := if given.isEmpty then session.arguments else given
    let isOver := all.length + 1 < session.optionPlace.next
    let place := if isOver then .start else session.optionPlace
    let isQuiet := known.startsWith ":"
    let give (value : Option String) : Act Unit :=
      Act.putVariable "OPTARG" (value.map fun text => ⟨some text, false, false⟩)
    let close (name : String) (place : OptionPlace) : Act Unit := do
      Act.assign "OPTIND" (toString place.next)
      Act.assign variableName name
      modify fun session => { session with optionPlace := place }
    match nextOption known all place with
    | .finished place =>
      close "?" place
      return 1
    | .taken letter value place =>
      give (some value)
      close (String.singleton letter) place
    | .unknown letter place =>
      if isQuiet then give (some (String.singleton letter))
      else
        let _ ← Act.print 2 s!"Illegal option -{letter}\n"
        give none
      close "?" place
    | .valueless letter place =>
      if isQuiet then
        give (some (String.singleton letter))
        close ":" place
      else
        let _ ← Act.print 2 s!"No arg for -{letter} option\n"
        give none
        close "?" place
    return 0
  | _ => Act.fail "Usage: getopts optstring var [arg...]"

/-! ## Reading -/

/-- The first line of a text with what is protected by backslashes, unless they are kept; whether it
has an end; and the text behind it. -/
def lineOf (keeps : Bool) : List Char → List (Char × Bool) × Bool × List Char
  | [] => ([], false, [])
  | '\n' :: rest => ([], true, rest)
  | c :: rest =>
    if c == '\\' && !keeps then
      match rest with
      | '\n' :: rest => lineOf keeps rest
      | d :: rest =>
        let (line, ends, after) := lineOf keeps rest
        ((d, true) :: line, ends, after)
      | [] => ([], false, [])
    else
      let (line, ends, after) := lineOf keeps rest
      ((c, false) :: line, ends, after)

/-- Where the last value in a line is cut, behind its first separator: `cut` is the first of the
separators that end the line so far, and `spaced` says that these are blanks. What is protected ends
nothing. -/
def cutFrom (isSeparator isBlank : Char × Bool → Bool) :
    Nat → Option Nat → Bool → List (Char × Bool) → Option Nat
  | _, cut, _, [] => cut
  | place, cut, spaced, c :: rest =>
    let (cut, spaced) :=
      if c.2 then (cut, false)
      else if isBlank c then (some (cut.getD place), spaced)
      else (if isSeparator c && spaced then cut else none, false)
    cutFrom isSeparator isBlank (place + 1) cut spaced rest

/-- The values for a number of names in a line. The last one is all that is left, less the blanks
at its end, and less a separator if it is one field with that behind it. -/
def valuesOf (separators : List Char) : Nat → List (Char × Bool) → List String
  | 0, _ => []
  | count + 1, line =>
    let isSeparator (c : Char × Bool) := !c.2 && separators.contains c.1
    let isBlank (c : Char × Bool) := isSeparator c && Expansion.isBlank c.1
    let line := line.dropWhile isBlank
    let field := line.takeWhile (!isSeparator ·)
    let rest := (line.drop field.length).dropWhile isBlank
    let rest := match rest with
      | c :: more => if isSeparator c then more.dropWhile isBlank else c :: more
      | [] => []
    let textOf (chars : List (Char × Bool)) := String.ofList (chars.map Prod.fst)
    match count with
    | 0 =>
      match line.drop field.length with
      | [] => [textOf field]
      | c :: rest =>
        let cut := cutFrom isSeparator isBlank (field.length + 1) (some field.length) (isBlank c) rest
        [textOf (line.take (cut.getD line.length))]
    | count => textOf field :: valuesOf separators count rest

/-- Reads a line and gives variables the fields in it. -/
def read (arguments : List String) : Act Int := do
  let given ← withOptions "r" "p" arguments
  if given.operands.isEmpty then Act.fail "arg count"
  let text := ((← Act.readable 0).getD ("", .stream)).1
  let (line, ends, rest) := lineOf (given.has 'r') text.toList
  Act.leave 0 (String.ofList rest)
  let line := line.filter (·.1 != '\x00')
  let values := valuesOf (← Act.separators) given.operands.length line
  let padded := values ++ List.replicate given.operands.length ""
  (given.operands.zip padded).forM fun (name, value) => Act.assign name value
  return if ends then 0 else 1

end Builtin
end JavaStubs.Shell

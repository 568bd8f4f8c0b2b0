import JavaStubs.Text.Quoted
import JavaStubs.Text.Words

/-!
Command line arguments: options by their names, with or without a value, and arguments that are no
options. A long option may be shortened as long as it stays unambiguous and may carry its value
behind an equals sign; short options without a value may be written together; and behind a double
dash everything is an argument. `Grammar.parse` takes the first argument for the subject, gathers
what it does not know, and stops at the first error.
-/
namespace JavaStubs

/-- An option: its names, of which the first identifies it, and whether it takes a value. -/
structure OptionSpec where
  names : List String
  takesValue : Bool
  deriving DecidableEq, Repr

namespace OptionSpec

/-- The name that identifies an option. -/
def key (spec : OptionSpec) : String := spec.names.head?.getD ""

/-- The option as error texts name it. -/
def display (spec : OptionSpec) : String := Text.joined "/" spec.names

def help : OptionSpec := ⟨["-h", "--help"], false⟩

end OptionSpec

/-- What an argument of the command line is. -/
inductive Token where
  /-- An option under the name it was given by, with the value that its own argument carries, or an
  argument that only looks like an option. -/
  | option (text : String) (spec : Option OptionSpec) (name : String) (carried : Option String)
  | argument (text : String)
  | separator
  deriving DecidableEq, Repr

namespace Token

/-- A token as it was written. -/
def text : Token → String
  | .option text .. => text
  | .argument text => text
  | .separator => "--"

/-- Whether a token is an option. -/
def isOption : Token → Bool
  | .option .. => true
  | _ => false

end Token

/-- Why a command line was not taken. -/
inductive ArgumentFault where
  /-- Help was asked for. -/
  | help
  | ambiguous (text : String) (names : List String)
  | noValue (option : OptionSpec)
  | ignoredValue (option : OptionSpec) (value : String)
  | missing (names : List String)
  | noChoice (name choice : String) (choices : List String)
  | unrecognised (texts : List String)
  deriving DecidableEq, Repr

/-- The wording of a fault. -/
def ArgumentFault.message : ArgumentFault → String
  | .help => ""
  | .ambiguous text names => s!"ambiguous option: {text} could match " ++ Text.joined ", " names
  | .noValue option => s!"argument {option.display}: expected one argument"
  | .ignoredValue option value =>
    s!"argument {option.display}: ignored explicit argument {Text.quoted value}"
  | .missing names => "the following arguments are required: " ++ Text.joined ", " names
  | .noChoice name choice choices =>
    s!"argument {name}: invalid choice: {Text.quoted choice} (choose from " ++
      Text.joined ", " (choices.map Text.quoted) ++ ")"
  | .unrecognised texts => "unrecognized arguments: " ++ Text.joined " " texts

/-- The text that an option is given, if it is given one: a double dash behind the equals sign of an
option stands for no text at all. -/
abbrev Given := Option String

/-- What an option is given by the value that its own argument carries. -/
def Given.ofCarried (value : String) : Given := if value == "--" then none else some value

/-- What a command line says: the options with what they are given, in order, the subject, and what
was not recognised. -/
structure Arguments where
  options : List (String × Given)
  subject : Option String
  extras : List String
  deriving DecidableEq, Repr

namespace Arguments

/-- Nothing said. -/
def none : Arguments := ⟨[], Option.none, []⟩

/-- What an option is given each time, in order. -/
def valuesOf (arguments : Arguments) (key : String) : List Given :=
  (arguments.options.filter (·.1 == key)).map Prod.snd

def valueOf? (arguments : Arguments) (key : String) : Option Given :=
  (arguments.valuesOf key).getLast?

def has (arguments : Arguments) (key : String) : Bool := arguments.options.any (·.1 == key)

end Arguments

/-- The options of a command. -/
abbrev Grammar := List OptionSpec

namespace Grammar

def get? (grammar : Grammar) (name : String) : Option OptionSpec :=
  grammar.find? (·.names.contains name)

/-- All names with their options, in order. -/
def named (grammar : Grammar) : List (String × OptionSpec) :=
  grammar.flatMap fun spec => spec.names.map fun name => (name, spec)

/-- A text cut at its first equals sign, if it has one. -/
def cutValue (text : String) : String × Option String :=
  let (name, value) := Text.cutAt (· == '=') text.toList
  if text.toList.contains '=' then (String.ofList name, some (String.ofList value))
  else (text, Option.none)

/-- Whether a text looks like a negative number. -/
def isNegativeNumber (text : String) : Bool :=
  let isDigit := Text.isDecimalDigit
  match text.toList with
  | '-' :: rest =>
    let digits := if rest.getLast? == some '\n' then rest.dropLast else rest
    match digits.dropWhile isDigit with
    | [] => !digits.isEmpty
    | '.' :: fraction => !fraction.isEmpty && fraction.all isDigit
    | _ => false
  | _ => false

/-- The options that an argument which is no option's full name can stand for. -/
def candidates (grammar : Grammar) (text : String) :
    List (String × OptionSpec × Option String) :=
  if text.startsWith "--" then
    let (name, value) := cutValue text
    (grammar.named.filter fun (known, _) => known.startsWith name).map fun (known, spec) =>
      (known, spec, value)
  else
    let short := String.ofList (text.toList.take 2)
    let rest := String.ofList (text.toList.drop 2)
    grammar.named.filterMap fun (known, spec) =>
      if known == short then some (known, spec, some rest)
      else if known.startsWith text then some (known, spec, Option.none)
      else Option.none

/-- The token that an argument in front of a double dash is. -/
def token (grammar : Grammar) (text : String) : Except ArgumentFault Token :=
  if !text.startsWith "-" || text == "-" then .ok (.argument text)
  else match grammar.get? text with
    | some spec => .ok (.option text (some spec) text Option.none)
    | Option.none =>
      let (name, value) := cutValue text
      match value, grammar.get? name with
      | some value, some spec => .ok (.option text (some spec) name (some value))
      | _, _ =>
        match grammar.candidates text with
        | [(known, spec, carried)] => .ok (.option text (some spec) known carried)
        | [] =>
          if isNegativeNumber text || text.toList.contains ' ' then .ok (.argument text)
          else .ok (.option text Option.none text Option.none)
        | several => .error (.ambiguous text (several.map Prod.fst))

/-- The tokens of a command line. -/
def tokens (grammar : Grammar) : List String → Except ArgumentFault (List Token)
  | [] => .ok []
  | text :: rest =>
    if text == "--" then .ok (.separator :: rest.map Token.argument)
    else do return (← grammar.token text) :: (← tokens grammar rest)

/-- The arguments with one more option. -/
def take (arguments : Arguments) (spec : OptionSpec) (given : Given) :
    Except ArgumentFault Arguments :=
  if spec == .help then .error .help
  else .ok { arguments with options := arguments.options ++ [(spec.key, given)] }

/-- The options without value that are written together in one argument, after those in `done`:
each next character names one. They count only if every character does. -/
def takeCluster (grammar : Grammar) (arguments : Arguments) (done : List OptionSpec)
    (spec : OptionSpec) : List Char → Except ArgumentFault Arguments
  | [] => (done ++ [spec]).foldlM (fun arguments spec => take arguments spec (some "")) arguments
  | c :: rest =>
    match grammar.get? (String.ofList ['-', c]) with
    | some next => takeCluster grammar arguments (done ++ [spec]) next rest
    | Option.none => .error (.ignoredValue spec (String.ofList (c :: rest)))

/-- Takes an option, and tells how many of the tokens behind it are its value. -/
def takeOption (grammar : Grammar) (arguments : Arguments) (spec : OptionSpec) (name : String)
    (carried : Option String) (rest : List Token) : Except ArgumentFault (Arguments × Nat) :=
  match carried with
  | some value =>
    if spec.takesValue then do return (← take arguments spec (Given.ofCarried value), 0)
    else if name.startsWith "--" || value.isEmpty then .error (.ignoredValue spec value)
    else do return (← grammar.takeCluster arguments [] spec value.toList, 0)
  | Option.none =>
    if spec.takesValue then
      match rest with
      | .argument value :: _ => do return (← take arguments spec (some value), 1)
      | _ => .error (.noValue spec)
    else do return (← take arguments spec (some ""), 0)

/-- The arguments from tokens among which there is no option: the first one is the subject if
there is none yet, and one separator beside it is passed over. -/
def finish (arguments : Arguments) (tokens : List Token) : Arguments :=
  match arguments.subject, tokens with
  | Option.none, .separator :: .argument text :: rest =>
    { arguments with subject := some text, extras := arguments.extras ++ rest.map Token.text }
  | Option.none, .argument text :: .separator :: rest =>
    { arguments with subject := some text, extras := arguments.extras ++ rest.map Token.text }
  | Option.none, .argument text :: rest =>
    { arguments with subject := some text, extras := arguments.extras ++ rest.map Token.text }
  | _, tokens => { arguments with extras := arguments.extras ++ tokens.map Token.text }

/-- The arguments that tokens say, from what was said so far. -/
def gather (grammar : Grammar) (arguments : Arguments) (tokens : List Token) :
    Except ArgumentFault Arguments :=
  if !tokens.any Token.isOption then .ok (finish arguments tokens)
  else match tokens with
    | [] => .ok arguments
    | .option text Option.none _ _ :: rest =>
      gather grammar { arguments with extras := arguments.extras ++ [text] } rest
    | .option _ (some spec) name carried :: rest =>
      match grammar.takeOption arguments spec name carried rest with
      | .error fault => .error fault
      | .ok (arguments, taken) => gather grammar arguments (rest.drop taken)
    | first :: rest =>
      match arguments.subject with
      | Option.none => gather grammar { arguments with subject := some first.text } rest
      | some _ =>
        gather grammar { arguments with extras := arguments.extras ++ [first.text] } rest
termination_by tokens.length
decreasing_by
  · simp
  · exact Nat.lt_succ_of_le (by simp)
  · simp
  · simp

def parse (grammar : Grammar) (texts : List String) : Except ArgumentFault Arguments := do
  gather grammar .none (← grammar.tokens texts)

end Grammar
end JavaStubs

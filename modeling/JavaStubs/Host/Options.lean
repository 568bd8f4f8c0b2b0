import JavaStubs.Host.Process

/-!
Options in the arguments of a program: letters behind a dash, several of which may share one, and
words behind two dashes, of which any beginning that fits only one will do. Options may stand among
the other arguments, up to an argument of two dashes.
-/
namespace JavaStubs.Host

/-- The options that a program knows. -/
structure OptionTable where
  /-- The letters, with those marked that take a value. -/
  letters : List (Char × Bool)
  /-- The words, with the letters that they stand for. -/
  words : List (String × Char)
  /-- The letters whose value may be left out; it has to follow at once, and a word's value stands
  behind an equals sign. -/
  optional : List Char := []

/-- What the arguments of a program say. -/
structure Invocation where
  options : List (Char × String)
  operands : List String
  deriving Repr

namespace Invocation

def has (given : Invocation) (letter : Char) : Bool := given.options.any (·.1 == letter)

/-- The value that an option was given last. -/
def value? (given : Invocation) (letter : Char) : Option String :=
  (given.options.filter (·.1 == letter)).getLast?.map Prod.snd

/-- The one of some letters that was given last. -/
def last? (given : Invocation) (letters : List Char) : Option Char :=
  (given.options.filter fun (letter, _) => letters.contains letter).getLast?.map Prod.fst

end Invocation

/-- Why options are refused. -/
inductive OptionFault where
  | unknownLetter (letter : Char)
  | unknownWord (word : String)
  | ambiguous (word : String) (fitting : List String)
  | noValue (letter : Char)
  | noWordValue (word : String)
  | valueRefused (word : String)
  deriving DecidableEq, Repr

/-- The wording of a fault. -/
def OptionFault.message : OptionFault → String
  | .unknownLetter letter => s!"invalid option -- '{letter}'"
  | .unknownWord word => s!"unrecognized option '--{word}'"
  | .ambiguous word fitting =>
    s!"option '--{word}' is ambiguous; possibilities: " ++
      Text.joined " " (fitting.map fun word => s!"'--{word}'")
  | .noValue letter => s!"option requires an argument -- '{letter}'"
  | .noWordValue word => s!"option '--{word}' requires an argument"
  | .valueRefused word => s!"option '--{word}' doesn't allow an argument"

namespace OptionTable

def takesValue (table : OptionTable) (letter : Char) : Bool :=
  (table.letters.lookup letter).getD false

def wordOf (table : OptionTable) (word : String) : Except OptionFault (String × Char) :=
  match table.words.find? (·.1 == word), table.words.filter (·.1.startsWith word) with
  | some found, _ => .ok found
  | none, [found] => .ok found
  | none, [] => .error (.unknownWord word)
  | none, found :: more =>
    if more.all (·.2 == found.2) then .ok found
    else .error (.ambiguous word ((found :: more).map Prod.fst))

/-- An option whose value, if it takes one, may be the next argument. -/
def withValue (table : OptionTable) (letter : Char) (fault : OptionFault) (rest : List String) :
    Except OptionFault ((Char × String) × List String) :=
  if !table.takesValue letter then .ok ((letter, ""), rest)
  else match rest with
    | value :: rest => .ok ((letter, value), rest)
    | [] => .error fault

/-- The options of letters that share a dash, and the arguments behind them. -/
def ofLetters (table : OptionTable) : List Char → List String →
    Except OptionFault (List (Char × String) × List String)
  | [], rest => .ok ([], rest)
  | letter :: more, rest => do
    if !table.letters.any (·.1 == letter) then throw (.unknownLetter letter)
    if table.optional.contains letter then return ([(letter, String.ofList more)], rest)
    if table.takesValue letter && !more.isEmpty then
      return ([(letter, String.ofList more)], rest)
    let (found, rest) ← table.withValue letter (.noValue letter) rest
    let (others, rest) ← table.ofLetters more rest
    return (found :: others, rest)

/-- The option of a word, and the arguments behind it. -/
def ofWord (table : OptionTable) (text : List Char) (rest : List String) :
    Except OptionFault ((Char × String) × List String) := do
  let (start, value) := Text.cutAt (· == '=') text
  let (word, letter) ← table.wordOf (String.ofList start)
  if text.contains '=' then
    if !table.takesValue letter && !table.optional.contains letter then
      throw (.valueRefused word)
    return ((letter, String.ofList value), rest)
  table.withValue letter (.noWordValue word) rest

/-- What arguments say; `fuel` is at least their number. Where `mixed` is not set, all is operands
from the first one on. -/
def readFrom (table : OptionTable) (mixed : Bool) : Nat → List String → Except OptionFault Invocation
  | 0, rest => .ok ⟨[], rest⟩
  | _ + 1, [] => .ok ⟨[], []⟩
  | fuel + 1, argument :: rest =>
    match argument.toList with
    | ['-', '-'] => .ok ⟨[], rest⟩
    | '-' :: '-' :: text => do
      let (found, rest) ← table.ofWord text rest
      let given ← table.readFrom mixed fuel rest
      return { given with options := found :: given.options }
    | '-' :: c :: more => do
      let (found, rest) ← table.ofLetters (c :: more) rest
      let given ← table.readFrom mixed fuel rest
      return { given with options := found ++ given.options }
    | _ => do
      if !mixed then return ⟨[], argument :: rest⟩
      let given ← table.readFrom mixed fuel rest
      return { given with operands := argument :: given.operands }

def read (table : OptionTable) (arguments : List String) : Except OptionFault Invocation :=
  table.readFrom true (arguments.length + 1) arguments

/-- What arguments say whose options stand in front. -/
def readLeading (table : OptionTable) (arguments : List String) : Except OptionFault Invocation :=
  table.readFrom false (arguments.length + 1) arguments

end OptionTable

/-- A table of letters without values, of letters with values, and of words. -/
def options (plain valued : String) (words : List (String × Char)) : OptionTable :=
  { letters := plain.toList.map (·, false) ++ valued.toList.map (·, true), words }

/-! ## Choices -/

/-- Why a word for one of some choices is refused. -/
structure ChoiceFault where
  isAmbiguous : Bool
  word : String
  /-- What the choice is for. -/
  purpose : String
  /-- The words that would do; those for one choice stand together. -/
  choices : List (List String)
  deriving Repr

def ChoiceFault.message (fault : ChoiceFault) : String :=
  let kind := if fault.isAmbiguous then "ambiguous" else "invalid"
  let start := s!"{kind} argument '{fault.word}' for '{fault.purpose}'\nValid arguments are:"
  start ++ String.join (fault.choices.map fun words =>
    "\n  - " ++ Text.joined ", " (words.map fun word => s!"'{word}'"))

/-- The choice that a word stands for; any beginning that fits only one will do. -/
def chosenBy {α : Type} [BEq α] (purpose : String) (choices : List (String × α)) (word : String) :
    Except ChoiceFault α :=
  let fitting := choices.filter (·.1.startsWith word)
  let shown := (choices.splitBy (·.2 == ·.2)).map (·.map Prod.fst)
  match choices.lookup word, fitting with
  | some choice, _ => .ok choice
  | none, [] => .error ⟨false, word, purpose, shown⟩
  | none, (_, choice) :: more =>
    if more.all (·.2 == choice) then .ok choice else .error ⟨true, word, purpose, shown⟩

namespace Work

/-- Refers to the program's own help, and fails. -/
def referToHelp (code : Int) : Work Unit := do
  sayError s!"Try '{(← get).call.name} --help' for more information.\n"
  fail code

/-- Complains about how the program was called. -/
def misuse (message : String) (code : Int) : Work Unit := do
  complain message code
  referToHelp code

/-- Complains about how the program was called in two lines that both begin with its name. -/
def misuseNamed (message : String) (code : Int) : Work Unit := do
  complain message code
  complain s!"Try '{(← get).call.name} --help' for more information." code

/-- Goes on with what the arguments say, if they are understood. -/
def withOptions (table : OptionTable) (code : Int) (work : Invocation → Work Unit) : Work Unit := do
  match table.read (← get).call.arguments with
  | .ok given => work given
  | .error fault => misuse fault.message code

end Work
end JavaStubs.Host

/-!
Numbers with letters for their sizes, such as `4K` or `2MB`, as options give them. A letter alone, or with
`iB`, stands for a power of 1024, and one with `B` for a power of 1000.
-/
namespace JavaStubs.Host.Sizes

/-- The letters for powers, from the first on. -/
def letters : List Char := "KMGTPEZY".toList

/-- The size that letters stand for. -/
def unit? (text : List Char) : Option Nat :=
  match text with
  | [] => some 1
  | ['c'] => some 1
  | ['w'] => some 2
  | ['b'] => some 512
  | c :: rest =>
    let letter := if c == 'k' then 'K' else if c == 'm' then 'M' else c
    (letters.findIdx? (· == letter)).bind fun place =>
      match rest with
      | [] => some (Nat.pow 1024 (place + 1))
      | ['B'] => some (Nat.pow 1000 (place + 1))
      | ['i', 'B'] => some (Nat.pow 1024 (place + 1))
      | _ => none

/-- The number that a text spells, in digits and letters for a size; letters alone spell none. -/
def read? (text : String) : Option Nat :=
  let digits := text.toList.takeWhile Char.isDigit
  (unit? (text.toList.drop digits.length)).bind fun unit =>
    (String.ofList digits).toNat?.map (unit * ·)

/-- The number that a text spells, which may be in octal or hexadecimal digits. -/
def readAny? (text : String) : Option Nat :=
  let valueIn (base : Nat) (digits : List Char) : Option Nat :=
    digits.foldlM (fun n c =>
      let value := if c.isDigit then c.toNat - '0'.toNat
        else if 'a' ≤ c.toLower && c.toLower ≤ 'f' then c.toLower.toNat - 'a'.toNat + 10 else 99
      if value < base then some (base * n + value) else none) 0
  match text.toList with
  | '0' :: 'x' :: digits => if digits.isEmpty then none else valueIn 16 digits
  | '0' :: 'X' :: digits => if digits.isEmpty then none else valueIn 16 digits
  | '0' :: c :: rest =>
    let digits := (c :: rest).takeWhile Char.isDigit
    (unit? ((c :: rest).drop digits.length)).bind fun unit => (valueIn 8 digits).map (unit * ·)
  | _ => read? text

end JavaStubs.Host.Sizes

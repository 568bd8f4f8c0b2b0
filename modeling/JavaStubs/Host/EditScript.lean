import JavaStubs.Host.Regex
import JavaStubs.Text.Hexadecimal

/-!
Scripts of edits for lines. A script is a list of rules, each an edit with the addresses that choose
the lines it is for; blocks and jumps lead to other places in the list. A script may come in several
pieces.
-/
namespace JavaStubs.Host

/-! ## Rules -/

/-- An expression in a script; none stands for the one that was used last. -/
structure EditPattern where
  regex : Option Regex
  mode : Regex.Mode

/-- What chooses lines. -/
inductive LineAddress where
  | number (n : Nat)
  /-- Every line whose number is some steps behind a first one. -/
  | every (first step : Nat)
  | last
  | fitting (pattern : EditPattern)

/-- Where a range of lines ends. -/
inductive RangeEnd where
  | at_ (address : LineAddress)
  /-- A number of lines behind the first one. -/
  | behind (count : Nat)
  /-- At the next line whose number is a multiple. -/
  | multiple (n : Nat)

/-- How the letters that follow are changed. -/
inductive CaseChange where
  | upper
  | lower
  | upperNext
  | lowerNext
  | end_
  deriving DecidableEq, Repr

/-- A piece of the text that takes the place of another one. -/
inductive ReplacementPiece where
  | text (c : Char)
  | group (number : Nat)
  | change (change : CaseChange)
  deriving DecidableEq, Repr

/-- How texts in a line are replaced. -/
structure Substitution where
  pattern : EditPattern
  new : List ReplacementPiece
  all : Bool
  /-- Which of the texts that fit is the first to be replaced. -/
  number : Nat
  shows : Bool
  target : Option String

/-- What is done with a line. -/
inductive Edit where
  | substitute (how : Substitution)
  | translate (pairs : List (Char × Char))
  | print
  | printFirst
  | list (width : Option Nat)
  | showNumber
  | showName
  | delete
  | deleteFirst
  | clear
  | quit (shows : Bool) (code : Nat)
  | append (text : String)
  | insert (text : String)
  | change (text : String)
  | appendFile (name : String)
  | appendLine (name : String)
  | write (name : String)
  | writeFirst (name : String)
  | next
  | joinNext
  | hold
  | holdMore
  | fetch
  | fetchMore
  | exchange
  /-- The beginning of a block, with the place of the rule behind it. -/
  | block (behind : Nat)
  | mark (label : String)
  /-- A jump to a label, or to the end; `after` says whether it depends on a replacement. -/
  | jump (label : String) (after : Option Bool)
  | none

/-- An edit with the addresses that choose its lines. -/
structure EditRule where
  first : Option LineAddress
  second : Option RangeEnd
  negated : Bool
  edit : Edit

/-! ## Characters of a script -/

/-- Why a script is refused. -/
inductive EditFault where
  | unknown (letter : Char)
  | missingCommand
  | moreBehind
  | secondAddress
  | stepFirst
  | zeroAddress
  | twiceNegated
  | openBlock
  | unopenedBlock
  | addressBeforeEnd
  | addressBeforeComment
  | addressBeforeLabel
  | noLabel
  | textMissing
  | nameMissing
  | openAddress
  | openPair (letter : Char)
  | unequalPair
  | unknownFlag
  | twiceFlag (letter : Char)
  | twiceNumber
  | zeroNumber
  | noGroup (number : Nat)
  | flaggedEmpty
  | oneAddress
  | regex (fault : Regex.Fault)
  deriving DecidableEq, Repr

/-- An edit's letter as messages show it. -/
def quotedLetter (letter : Char) : String := String.ofList ['\x60', letter, '\'']

/-- The wording of a fault. -/
def EditFault.message : EditFault → String
  | .unknown letter => "unknown command: " ++ quotedLetter letter
  | .missingCommand => "missing command"
  | .moreBehind => "extra characters after command"
  | .secondAddress => "unexpected " ++ quotedLetter ','
  | .stepFirst => "invalid usage of +N or ~N as first address"
  | .zeroAddress => "invalid usage of line address 0"
  | .twiceNegated => "multiple " ++ quotedLetter '!' ++ "s"
  | .openBlock => "unmatched " ++ quotedLetter '\x7b'
  | .unopenedBlock => "unexpected " ++ quotedLetter '\x7d'
  | .addressBeforeEnd => quotedLetter '\x7d' ++ " doesn't want any addresses"
  | .addressBeforeComment => "comments don't accept any addresses"
  | .addressBeforeLabel => ": doesn't want any addresses"
  | .noLabel => "\":\" lacks a label"
  | .textMissing => "expected \\ after " ++ quotedLetter 'a' ++ ", " ++ quotedLetter 'c' ++ " or " ++
      quotedLetter 'i'
  | .nameMissing => "missing filename in r/R/w/W commands"
  | .openAddress => "unterminated address regex"
  | .openPair letter => "unterminated " ++ quotedLetter letter ++ " command"
  | .unequalPair => "strings for " ++ quotedLetter 'y' ++ " command are different lengths"
  | .unknownFlag => "unknown option to " ++ quotedLetter 's'
  | .twiceFlag letter =>
    "multiple " ++ quotedLetter letter ++ " options to " ++ quotedLetter 's' ++ " command"
  | .twiceNumber => "multiple number options to " ++ quotedLetter 's' ++ " command"
  | .zeroNumber => "number option to " ++ quotedLetter 's' ++ " command may not be zero"
  | .noGroup number =>
    s!"invalid reference \\{number} on " ++ quotedLetter 's' ++ " command's RHS"
  | .flaggedEmpty => "cannot specify modifiers on empty regexp"
  | .oneAddress => "command only uses one address"
  | .regex fault => fault.message

/-- A refusal with the number of characters that were not read. -/
structure EditRefusal where
  left : Nat
  fault : EditFault
  deriving DecidableEq, Repr

/-- What reads a script: it takes characters from the front of a text. -/
abbrev EditReader := StateT (List Char) (Except EditRefusal)

namespace EditReader

def refuse {α : Type} (fault : EditFault) : EditReader α := do
  throw ⟨(← get).length, fault⟩

def take : EditReader (Option Char) :=
  modifyGet fun
    | c :: rest => (some c, rest)
    | [] => (none, [])

/-- Takes characters while they pass a test. -/
def takeWhile (test : Char → Bool) : EditReader (List Char) :=
  modifyGet fun text =>
    let taken := text.takeWhile test
    (taken, text.drop taken.length)

/-- Whether a character is a space or a tabulator. -/
def isGap (c : Char) : Bool := c == ' ' || c == '\t'

def skipGaps : EditReader Unit := modify fun text => text.dropWhile isGap

/-- The number at the front, zero if there is none. -/
def number : EditReader Nat := do
  let digits ← takeWhile Char.isDigit
  return (String.ofList digits).toNat?.getD 0

end EditReader

open EditReader

/-! ## Escapes -/

/-- The character that a number in digits of a base stands for, at most some digits long. -/
def numbered (base most : Nat) (letter : Char) (text : List Char) : Char × List Char :=
  let digits := (text.take most).takeWhile fun c => (Hexadecimal.value? c).any (· < base)
  if digits.isEmpty then (letter, text)
  else
    let value := digits.foldl (fun n c => base * n + (Hexadecimal.value? c).getD 0) 0
    (Char.ofNat (value % 256), text.drop digits.length)

/-- The character that an escape stands for whose backslash was taken, and what is behind it. -/
def editEscape : List Char → Option (Char × List Char)
  | 'a' :: rest => some ('\x07', rest)
  | 'f' :: rest => some ('\x0c', rest)
  | 'n' :: rest => some ('\n', rest)
  | 'r' :: rest => some ('\x0d', rest)
  | 't' :: rest => some ('\t', rest)
  | 'v' :: rest => some ('\x0b', rest)
  | 'c' :: c :: rest => some (Char.ofNat (c.toUpper.toNat ^^^ 64), rest)
  | 'd' :: rest => some (numbered 10 3 'd' rest)
  | 'o' :: rest => some (numbered 8 3 'o' rest)
  | 'x' :: rest => some (numbered 16 2 'x' rest)
  | _ => none

/-- The characters of a set of characters, up to its end, and what is behind them: `fuel` is at least
the length of the text, and `inside` is what has to come before the end. -/
def setText : Nat → Option Char → List Char → List Char × List Char
  | fuel + 1, inside, c :: rest =>
    if c == '\n' then ([], c :: rest)
    else
      let more (inside : Option Char) (taken rest : List Char) : List Char × List Char :=
        let (text, rest) := setText fuel inside rest
        (taken ++ text, rest)
      match inside, rest with
      | none, d :: after =>
        if c == ']' then ([c], rest)
        else if c == '[' && (d == ':' || d == '.' || d == '=') then more (some d) [c, d] after
        else more none [c] rest
      | none, [] => ([c], [])
      | some mark, ']' :: after =>
        if c == mark then more none [c, ']'] after else more inside [c] rest
      | some _, rest => more inside [c] rest
  | _, _, text => ([], text)

/-- The characters of a set behind its opening bracket, up to its end, and what is behind them. -/
def wholeSet (text : List Char) : List Char × List Char :=
  let start : List Char := match text with
    | '^' :: ']' :: _ => ['^', ']']
    | '^' :: _ => ['^']
    | ']' :: _ => [']']
    | _ => []
  let (set, rest) := setText (text.length + 1) none (text.drop start.length)
  (start ++ set, rest)

/-- The characters of a set with its escapes replaced; `fuel` is more than their number. -/
def writtenSet : Nat → List Char → List Pattern.Written
  | fuel + 1, '\\' :: text =>
    match editEscape text with
    | some (c, rest) => (c, false) :: writtenSet fuel rest
    | none => ('\\', false) :: writtenSet fuel text
  | fuel + 1, c :: rest => (c, false) :: writtenSet fuel rest
  | _, _ => []

/-- The characters of an expression with its escapes replaced; `fuel` is more than its length. -/
def patternChars : Nat → List Char → List Pattern.Written
  | fuel + 1, '[' :: text =>
    let (set, rest) := wholeSet text
    ('[', false) :: writtenSet (set.length + 1) set ++ patternChars fuel rest
  | fuel + 1, '\\' :: text =>
    match editEscape text, text with
    | some (c, rest), _ => (c, false) :: patternChars fuel rest
    | none, c :: rest => ('\\', false) :: (c, false) :: patternChars fuel rest
    | none, [] => [('\\', false)]
  | fuel + 1, c :: rest => (c, false) :: patternChars fuel rest
  | _, _ => []

/-- The pieces of a replacement; `fuel` is more than its length. -/
def replacementPieces : Nat → List Char → List ReplacementPiece
  | 0, _ => []
  | _ + 1, [] => []
  | fuel + 1, '&' :: rest => .group 0 :: replacementPieces fuel rest
  | fuel + 1, '\\' :: c :: rest =>
    if c.isDigit then .group (c.toNat - '0'.toNat) :: replacementPieces fuel rest
    else match editEscape (c :: rest), changes.lookup c with
      | some (c, rest), _ => .text c :: replacementPieces fuel rest
      | none, some change => .change change :: replacementPieces fuel rest
      | none, none => .text c :: replacementPieces fuel rest
  | fuel + 1, c :: rest => .text c :: replacementPieces fuel rest
where
  /-- The letters for changes. -/
  changes : List (Char × CaseChange) :=
    [('U', .upper), ('L', .lower), ('u', .upperNext), ('l', .lowerNext), ('E', .end_)]

/-- A text to print with its escapes replaced; `fuel` is more than its length. -/
def plainText : Nat → List Char → List Char
  | fuel + 1, '\\' :: rest =>
    match editEscape rest, rest with
    | some (c, rest), _ => c :: plainText fuel rest
    | none, c :: rest => c :: plainText fuel rest
    | none, [] => []
  | fuel + 1, c :: rest => c :: plainText fuel rest
  | _, _ => []

/-! ## Parts of rules -/

/-- A text up to a separator that is not escaped; an escaped separator loses its backslash. Nothing
is found if the line ends before. `fuel` is more than the length of the text. -/
def upTo (separator : Char) (isRegex : Bool) : Nat → List Char → Option (List Char) × List Char
  | 0, text => (none, text)
  | _ + 1, [] => (none, [])
  | fuel + 1, c :: rest =>
    let more (taken rest : List Char) : Option (List Char) × List Char :=
      let (text, rest) := upTo separator isRegex fuel rest
      (text.map (taken ++ ·), rest)
    if c == separator then (some [], rest)
    else if c == '\n' && isRegex then (none, c :: rest)
    else if c == '\\' then
      match rest with
      | d :: rest =>
        if d == separator then more (if !isRegex && d == '&' then [c, d] else [d]) rest
        else if d == 'n' && isRegex then more ['\\', 'n'] rest
        else if d == '\n' then more (if isRegex then [d] else [c, d]) rest
        else more [c, d] rest
      | [] => (none, [])
    else if c == '[' && isRegex then
      let (set, rest) := wholeSet rest
      more (c :: set) rest
    else more [c] rest

/-- Takes a text up to a separator. -/
def takeUpTo (separator : Char) (isRegex : Bool) (fault : EditFault) : EditReader (List Char) := do
  let text ← get
  let (found, rest) := upTo separator isRegex (text.length + 1) text
  set rest
  match found with
  | some found => return found
  | none => refuse fault

def patternOf (extended : Bool) (mode : Regex.Mode) (text : List Char) : EditReader EditPattern := do
  if text.isEmpty then
    if mode != .plain then refuse .flaggedEmpty
    return ⟨none, mode⟩
  match Regex.ofWritten ⟨extended, false⟩ (patternChars (text.length + 1) text) with
  | .ok regex => return ⟨some regex, mode⟩
  | .error fault => refuse (.regex fault)

/-- The modes at the front of a text; `fuel` is at least their number. -/
def addressModes : Nat → Regex.Mode → EditReader Regex.Mode
  | 0, mode => return mode
  | fuel + 1, mode => do
    skipGaps
    match (← get).head? with
    | some 'I' =>
      let _ ← take
      addressModes fuel { mode with ignoreCase := true }
    | some 'M' =>
      let _ ← take
      addressModes fuel { mode with byLines := true }
    | _ => return mode

/-- The address at the front, if there is one. -/
def takeAddress (extended : Bool) : EditReader (Option LineAddress) := do
  let fitting (separator : Char) : EditReader (Option LineAddress) := do
    let text ← takeUpTo separator true .openAddress
    let mode ← addressModes (← get).length .plain
    return some (.fitting (← patternOf extended mode text))
  match ← get with
  | '$' :: rest =>
    set rest
    return some .last
  | '/' :: rest =>
    set rest
    fitting '/'
  | '\\' :: c :: rest =>
    set rest
    fitting c
  | c :: _ =>
    if !c.isDigit then return none
    let first ← number
    skipGaps
    if (← get).head? != some '~' then return some (.number first)
    let _ ← take
    skipGaps
    let step ← number
    return some (if step = 0 then .number first else .every first step)
  | [] => return none

/-- The end of a range at the front. -/
def takeRangeEnd (extended : Bool) : EditReader RangeEnd := do
  skipGaps
  match (← get).head? with
  | some '+' =>
    let _ ← take
    skipGaps
    return .behind (← number)
  | some '~' =>
    let _ ← take
    skipGaps
    return .multiple (← number)
  | _ =>
    match ← takeAddress extended with
    | some address => return .at_ address
    | none =>
      let _ ← take
      refuse .secondAddress

/-- Takes what may stand behind an edit: the end of a line, a semicolon, or nothing in front of the
end of a block or a comment. -/
def takeEnd : EditReader Unit := do
  skipGaps
  match (← get).head? with
  | none => return
  | some c =>
    if c == '\x7d' || c == '#' then return
    let _ ← take
    if c != '\n' && c != ';' then refuse .moreBehind

def takeLabel : EditReader String := do
  skipGaps
  let label ← takeWhile fun c => !(inClass "space" c) && c != ';' && c != '\x7d'
  return String.ofList label

/-- Takes the name of a file, which goes on to the end of the line. -/
def takeName : EditReader String := do
  skipGaps
  let name ← takeWhile (· != '\n')
  if name.isEmpty then refuse .nameMissing
  let _ ← take
  return String.ofList name

/-- The flags of a substitution. -/
structure SubstitutionFlags where
  mode : Regex.Mode
  all : Bool
  shows : Bool
  number : Option Nat
  target : Option String

/-- Takes the flags of a substitution; `fuel` is more than the length of the text. -/
def takeFlags : Nat → SubstitutionFlags → EditReader SubstitutionFlags
  | 0, flags => return flags
  | fuel + 1, flags => do
    match (← get).head? with
    | none => return flags
    | some c =>
      if c == '\x7d' || c == '#' then return flags
      if c.isDigit then
        let n ← number
        if flags.number.isSome then refuse .twiceNumber
        if n = 0 then refuse .zeroNumber
        takeFlags fuel { flags with number := some n }
      else
        let _ ← take
        match c with
        | '\n' => return flags
        | ';' => return flags
        | ' ' => takeFlags fuel flags
        | 'i' => takeFlags fuel { flags with mode := { flags.mode with ignoreCase := true } }
        | 'I' => takeFlags fuel { flags with mode := { flags.mode with ignoreCase := true } }
        | 'm' => takeFlags fuel { flags with mode := { flags.mode with byLines := true } }
        | 'M' => takeFlags fuel { flags with mode := { flags.mode with byLines := true } }
        | 'p' =>
          if flags.shows then refuse (.twiceFlag 'p')
          takeFlags fuel { flags with shows := true }
        | 'g' =>
          if flags.all then refuse (.twiceFlag 'g')
          takeFlags fuel { flags with all := true }
        | 'w' => return { flags with target := some (← takeName) }
        | _ => refuse .unknownFlag

/-- Takes a substitution behind its letter. -/
def takeSubstitution (extended : Bool) : EditReader Edit := do
  match ← take with
  | none => refuse (.openPair 's')
  | some separator =>
    let pattern ← takeUpTo separator true (.openPair 's')
    let new ← takeUpTo separator false (.openPair 's')
    let flags ← takeFlags ((← get).length + 1) ⟨.plain, false, false, none, none⟩
    let pattern ← patternOf extended flags.mode pattern
    let new := replacementPieces (new.length + 1) new
    if let some regex := pattern.regex then
      let groups := new.filterMap fun
        | .group number => some number
        | _ => none
      if let some number := groups.find? (regex.groupCount < ·) then refuse (.noGroup number)
    return .substitute
      ⟨pattern, new, flags.all, flags.number.getD 1, flags.shows, flags.target⟩

/-- The characters of one side of a translation; `fuel` is more than the length of the text. -/
def translationChars : Nat → List Char → List Char
  | fuel + 1, '\\' :: rest =>
    match editEscape rest, rest with
    | some (c, rest), _ => c :: translationChars fuel rest
    | none, '\\' :: rest => '\\' :: translationChars fuel rest
    | none, '\n' :: rest => '\n' :: translationChars fuel rest
    | none, rest => '\\' :: translationChars fuel rest
  | fuel + 1, c :: rest => c :: translationChars fuel rest
  | _, _ => []

/-- Takes a translation behind its letter. -/
def takeTranslation : EditReader Edit := do
  match ← take with
  | none => refuse (.openPair 'y')
  | some separator =>
    let old ← takeUpTo separator false (.openPair 'y')
    let new ← takeUpTo separator false (.openPair 'y')
    let old := translationChars (old.length + 1) old
    let new := translationChars (new.length + 1) new
    if old.length ≠ new.length then refuse .unequalPair
    takeEnd
    return .translate (old.zip new)

/-- The lines of a text to print, as they are written: up to the end of a line in front of which no
backslash stands. The last result says that a backslash ends the piece of the script. -/
def textLines : Nat → List Char → List Char × List Char × Bool
  | fuel + 1, '\\' :: c :: rest =>
    let (text, rest, goesOn) := textLines fuel rest
    ('\\' :: c :: text, rest, goesOn)
  | _ + 1, ['\\'] => ([], [], true)
  | _ + 1, '\n' :: rest => (['\n'], rest, false)
  | fuel + 1, c :: rest =>
    let (text, rest, goesOn) := textLines fuel rest
    (c :: text, rest, goesOn)
  | _, _ => (['\n'], [], false)

/-- Takes lines to print. The result says whether they go on in the next piece of the script. -/
def takeLines : EditReader (String × Bool) := do
  let text ← get
  let (lines, rest, goesOn) := textLines (text.length + 1) text
  set rest
  let lines := if goesOn then lines ++ ['\n'] else lines
  return (String.ofList (plainText (lines.length + 1) lines), goesOn)

/-- Takes the text of an edit that prints one. The result says whether the text goes on in the next
piece of the script. -/
def takeText : EditReader (String × Bool) := do
  skipGaps
  if (← get).isEmpty then refuse .textMissing
  if (← get) == ['\\'] then
    set ([] : List Char)
    return ("", true)
  modify fun
    | '\\' :: '\n' :: rest => rest
    | '\\' :: rest => rest
    | text => text
  takeLines

/-! ## Whole scripts -/

/-- A place in a script: the number of the piece, and of the line in it, both counted from one. -/
structure ScriptPlace where
  piece : Nat
  line : Nat
  deriving DecidableEq, Repr

/-- How far a script was read. -/
structure ScriptProgress where
  /-- The rules, the latest first. -/
  rules : List EditRule
  /-- The places of the rules of blocks that are open, the innermost first, with where in the script
  they were opened. -/
  blocks : List (Nat × ScriptPlace)
  /-- Whether lines are not printed by themselves. -/
  quiet : Bool
  /-- Whether the text of the latest rule goes on. -/
  goesOn : Bool

/-- A rule with more of the text that it prints. -/
def EditRule.withMore (rule : EditRule) (more : String) : EditRule :=
  { rule with edit := match rule.edit with
    | .append text => .append (text ++ more)
    | .insert text => .insert (text ++ more)
    | .change text => .change (text ++ more)
    | edit => edit }

/-- The rules with the block that begins at a place closed; the latest rule comes first. -/
def closeBlock (place : Nat) (rules : List EditRule) : List EditRule :=
  let behind := rules.length
  rules.zipIdx.map fun (rule, fromEnd) =>
    if fromEnd + place + 1 = behind then { rule with edit := .block behind } else rule

/-- Takes a rule; `place` is where in the script it stands. -/
def takeRule (extended : Bool) (place : ScriptPlace) (progress : ScriptProgress) :
    EditReader ScriptProgress := do
  let first ← takeAddress extended
  if first.isNone && ((← get).head? == some '+' || (← get).head? == some '~') then
    let _ ← takeRangeEnd extended
    refuse .stepFirst
  if first.isSome then skipGaps
  let second ← if first.isSome && (← get).head? == some ',' then
      let _ ← take
      let second ← takeRangeEnd extended
      skipGaps
      pure (some second)
    else pure none
  let c ← take
  if first matches some (.number 0) then
    if !(second matches some (.at_ (.fitting _))) then refuse .zeroAddress
  let negated := c == some '!'
  if negated then skipGaps
  let c ← if negated then take else pure c
  if negated && c == some '!' then refuse .twiceNegated
  let add (edit : Edit) : EditReader ScriptProgress :=
    return { progress with rules := ⟨first, second, negated, edit⟩ :: progress.rules }
  let plain (edit : Edit) : EditReader ScriptProgress := do
    takeEnd
    add edit
  let added (edit : String → Edit) : EditReader ScriptProgress := do
    let (text, goesOn) ← takeText
    return { ← add (edit text) with goesOn }
  let quit (shows : Bool) : EditReader ScriptProgress := do
    if second.isSome then refuse .oneAddress
    skipGaps
    let code ← number
    plain (.quit shows code)
  let jump (after : Option Bool) : EditReader ScriptProgress := do add (.jump (← takeLabel) after)
  match c with
  | none => refuse .missingCommand
  | some '#' =>
    if first.isSome then refuse .addressBeforeComment
    let _ ← takeWhile (· != '\n')
    return progress
  | some ':' =>
    if first.isSome then refuse .addressBeforeLabel
    let label ← takeLabel
    if label.isEmpty then refuse .noLabel
    add (.mark label)
  | some '\x7b' =>
    let opened := (progress.rules.length, place)
    return { ← add (.block 0) with blocks := opened :: progress.blocks }
  | some '\x7d' =>
    match progress.blocks with
    | [] => refuse .unopenedBlock
    | (opened, _) :: blocks =>
      if first.isSome then refuse .addressBeforeEnd
      takeEnd
      return { progress with blocks, rules := closeBlock opened progress.rules }
  | some 's' => add (← takeSubstitution extended)
  | some 'y' => add (← takeTranslation)
  | some 'a' => added .append
  | some 'i' => added .insert
  | some 'c' => added .change
  | some 'q' => quit true
  | some 'Q' => quit false
  | some 'b' => jump none
  | some 't' => jump (some true)
  | some 'T' => jump (some false)
  | some 'r' => add (.appendFile (← takeName))
  | some 'R' => add (.appendLine (← takeName))
  | some 'w' => add (.write (← takeName))
  | some 'W' => add (.writeFirst (← takeName))
  | some 'l' =>
    skipGaps
    let digits ← takeWhile Char.isDigit
    plain (.list (String.ofList digits).toNat?)
  | some 'v' =>
    let _ ← takeLabel
    return progress
  | some 'p' => plain .print
  | some 'P' => plain .printFirst
  | some 'd' => plain .delete
  | some 'D' => plain .deleteFirst
  | some 'z' => plain .clear
  | some '=' => plain .showNumber
  | some 'F' => plain .showName
  | some 'n' => plain .next
  | some 'N' => plain .joinNext
  | some 'h' => plain .hold
  | some 'H' => plain .holdMore
  | some 'g' => plain .fetch
  | some 'G' => plain .fetchMore
  | some 'x' => plain .exchange
  | some c => refuse (.unknown c)

/-- Takes all rules of a piece of a script; `fuel` is more than the length of the text, and `lines`
is the number of lines of the piece. -/
def takeRules (extended : Bool) (piece lines : Nat) : Nat → ScriptProgress →
    EditReader ScriptProgress
  | 0, progress => return progress
  | fuel + 1, progress => do
    modify fun text => text.dropWhile fun c => inClass "space" c || c == ';'
    let rest ← get
    if rest.isEmpty then return progress
    let line := lines - (rest.filter (· == '\n')).length
    takeRules extended piece lines fuel (← takeRule extended ⟨piece, line⟩ progress)

/-- Takes a piece of a script. -/
def takePiece (extended : Bool) (piece : Nat) (progress : ScriptProgress) :
    EditReader ScriptProgress := do
  let text ← get
  let lines := (text.filter (· == '\n')).length + 1
  let isQuiet := piece = 1 && (text == ['#', 'n'] || text.take 3 == ['#', 'n', '\n'])
  let progress := { progress with quiet := progress.quiet || isQuiet }
  let progress ← if !progress.goesOn then pure progress else do
    let (more, goesOn) ← takeLines
    let rules := match progress.rules with
      | rule :: rules => rule.withMore more :: rules
      | [] => []
    pure { progress with rules, goesOn }
  takeRules extended piece lines (text.length + 1) progress

end JavaStubs.Host

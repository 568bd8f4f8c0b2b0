import JavaStubs.Host.Regex
import JavaStubs.Records.Tokens

/-!
Patterns of scripts that work on records, and how they part texts. Patterns are written in the extended
notation of regular expressions, in which braces stand for themselves and a backslash begins an escape as
in texts.
-/
namespace JavaStubs.Records

open Host (Regex)

/-- Why a pattern is refused. -/
inductive PatternFault where
  | missingOperand
  | missingParenthesis
  | badClass
  | repeatedStart
  deriving DecidableEq, Repr

def PatternFault.message (pattern : String) (fault : PatternFault) : String :=
  let reason := match fault with
    | .missingOperand => "missing operand"
    | .missingParenthesis => "missing ')'"
    | .badClass => "bad class -- [], [^] or ["
    | .repeatedStart => "syntax error ^* or ^+"
  s!"regular expression compile failed ({reason})\n{pattern}"

namespace Pattern

/-- A pattern's characters, with those marked that stand for themselves; `fuel` is at least its length. -/
def written : Nat → List Char → List (Char × Bool)
  | fuel + 1, '\\' :: c :: rest =>
    match escapeIn (c :: rest) with
    | some (found, rest) => (found, true) :: written fuel rest
    | none => (c, true) :: written fuel rest
  | fuel + 1, c :: rest =>
    (c, c == '\x7b' || c == '\x7d' || c == '\\') :: written fuel rest
  | _, _ => []

/-- The characters behind the end of a set, whose inside is at the start; `isFirst` says that nothing of
it was read. -/
def pastSet (isFirst : Bool) : List (Char × Bool) → Option (List (Char × Bool))
  | [] => none
  | (']', false) :: rest => if isFirst then pastSet false rest else some rest
  | ('^', false) :: rest => pastSet isFirst rest
  | ('[', false) :: (':', false) :: rest => pastName rest
  | _ :: rest => pastSet false rest
where
  /-- The characters behind the end of a set, inside of the name of a class. -/
  pastName : List (Char × Bool) → Option (List (Char × Bool))
    | [] => none
    | (':', false) :: (']', false) :: rest => pastSet false rest
    | _ :: rest => pastName rest

/-- What is wrong with the operators of a pattern. `needs` says that an operand has to follow, and `depth`
is the number of open parentheses; `fuel` is more than the number of characters. -/
def fault? : Nat → Bool → Nat → List (Char × Bool) → Option PatternFault
  | 0, _, _, _ => none
  | _ + 1, _, depth, [] => if 0 < depth then some .missingParenthesis else none
  | fuel + 1, needs, depth, (c, isQuoted) :: rest =>
    if isQuoted then fault? fuel false depth rest
    else match c with
      | '(' => fault? fuel true (depth + 1) rest
      | ')' =>
        if depth = 0 then fault? fuel false depth rest
        else if needs then some .missingOperand
        else fault? fuel false (depth - 1) rest
      | '|' => if needs || rest.isEmpty then some .missingOperand else fault? fuel true depth rest
      | '[' =>
        match pastSet true rest with
        | some rest => fault? fuel false depth rest
        | none => some .badClass
      | '^' =>
        if rest.head?.any fun next => next == ('*', false) || next == ('+', false)
        then some .repeatedStart else fault? fuel false depth rest
      | c =>
        if needs && (c == '*' || c == '+' || c == '?') then some .missingOperand
        else fault? fuel false depth rest

def read (pattern : String) : Except PatternFault Regex :=
  let chars := written (pattern.length + 1) pattern.toList
  match fault? (chars.length + 1) true 0 chars with
  | some fault => .error fault
  | none =>
    match Regex.ofWritten ⟨true, true⟩ chars with
    | .ok regex => .ok regex
    | .error _ => .error .badClass

end Pattern

/-! ## Parting -/

/-- What stands between parts of a text. -/
inductive Separator where
  /-- Blanks, of which there may be some around the text, too. -/
  | blanks
  | single (c : Char)
  /-- Nothing: each character is a part. -/
  | nothing
  | regex (regex : Regex)

/-- The parts of a text between texts that fit an expression and are not empty; `part` is the present
one, the last character first, and `fuel` is more than the length of the text. -/
def partsByRegex (regex : Regex) : Nat → List Char → List Char → List Char → List (List Char)
  | 0, _, part, text => [part.reverse ++ text]
  | _ + 1, _, part, [] => [part.reverse]
  | fuel + 1, before, part, c :: rest =>
    match regex.matchAt? .plain ⟨before, c :: rest, []⟩ with
    | some found =>
      if found.text.isEmpty then partsByRegex regex fuel (c :: before) (c :: part) rest
      else part.reverse :: partsByRegex regex fuel (found.text.reverse ++ before) [] found.rest
    | none => partsByRegex regex fuel (c :: before) (c :: part) rest

/-- The parts of a text; an empty one has none. -/
def Separator.parts (separator : Separator) (text : String) : List String :=
  let chars := text.toList
  if chars.isEmpty then []
  else match separator with
    | .blanks =>
      ((chars.splitOnP isFieldBlank).filter (!·.isEmpty)).map String.ofList
    | .single c => Text.fieldsOf c text
    | .nothing => chars.map String.singleton
    | .regex fits => (partsByRegex fits (chars.length + 1) [] [] chars).map String.ofList

/-! ## Records -/

/-- What ends a record. -/
inductive RecordEnd where
  | single (c : Char)
  /-- Lines without anything in them. -/
  | emptyLines
  | regex (regex : Regex)

/-- The characters up to two line ends, and those behind all that follow them. -/
def paragraph : List Char → List Char × List Char
  | '\n' :: '\n' :: rest => ([], rest.dropWhile (· == '\n'))
  | ['\n'] => ([], [])
  | c :: rest =>
    let (found, rest) := paragraph rest
    (c :: found, rest)
  | [] => ([], [])

/-- The first text that fits an expression and is not empty: what is in front, and what is behind. -/
def firstFit (regex : Regex) (before : List Char) : List Char → Option (List Char × List Char)
  | [] => none
  | c :: rest =>
    match regex.matchAt? .plain ⟨before, c :: rest, []⟩ with
    | some found =>
      if found.text.isEmpty then firstFit regex (c :: before) rest else some (before.reverse, found.rest)
    | none => firstFit regex (c :: before) rest

/-- The first record of a text, and what is behind it; nothing if there is none. -/
def RecordEnd.cut (recordEnd : RecordEnd) (text : List Char) : Option (List Char × List Char) :=
  match recordEnd, text with
  | _, [] => none
  | .single c, text =>
    let found := text.takeWhile (· != c)
    some (found, text.drop (found.length + 1))
  | .emptyLines, text =>
    match text.dropWhile (· == '\n') with
    | [] => none
    | text => some (paragraph text)
  | .regex fits, text => some ((firstFit fits [] text).getD (text, []))

/-! ## Replacing -/

/-- What a replacement is made of: texts, and places for the text that fits, which are nothing. A
backslash in front of the mark for one takes its meaning away, and so do two in front of a backslash. -/
def replacementParts : List Char → List (Option Char)
  | '\\' :: '\\' :: '&' :: rest => some '\\' :: none :: replacementParts rest
  | '\\' :: '&' :: rest => some '&' :: replacementParts rest
  | '&' :: rest => none :: replacementParts rest
  | c :: rest => some c :: replacementParts rest
  | [] => []

/-- A replacement for a text that fits. -/
def replacementFor (parts : List (Option Char)) (found : List Char) : List Char :=
  parts.flatMap fun
    | some c => [c]
    | none => found

/-- A text with those parts replaced that fit an expression, and their number. Nothing that is empty is
replaced behind a part that was; `fuel` is more than the length. -/
def replacedFrom (regex : Regex) (parts : List (Option Char)) (all : Bool) :
    Nat → Bool → List Char → List Char → List Char × Nat
  | 0, _, _, text => (text, 0)
  | fuel + 1, isBehind, before, text =>
    let found := regex.matchAt? .plain ⟨before, text, []⟩
    match found, text with
    | some ⟨_, [], _, _⟩, [] => if isBehind then ([], 0) else (replacementFor parts [], 1)
    | some ⟨_, [], _, _⟩, c :: rest =>
      let (more, count) :=
        if all || isBehind then replacedFrom regex parts all fuel false (c :: before) rest
        else (rest, 0)
      if isBehind then (c :: more, count) else (replacementFor parts [] ++ c :: more, count + 1)
    | some ⟨_, text, rest, _⟩, _ =>
      let (more, count) :=
        if all then replacedFrom regex parts all fuel true (text.reverse ++ before) rest else (rest, 0)
      (replacementFor parts text ++ more, count + 1)
    | none, c :: rest =>
      let (more, count) := replacedFrom regex parts all fuel false (c :: before) rest
      (c :: more, count)
    | none, [] => ([], 0)

/-- A text with the first part, or all parts, replaced that fit an expression, and their number. -/
def replaced (regex : Regex) (replacement : String) (all : Bool) (text : String) : String × Nat :=
  let parts := replacementParts replacement.toList
  let (found, count) := replacedFrom regex parts all (text.length + 2) false [] text.toList
  (String.ofList found, count)

end JavaStubs.Records

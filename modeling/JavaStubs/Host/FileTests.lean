import JavaStubs.Host.Format
import JavaStubs.Host.Permissions
import JavaStubs.Host.Regex

/-!
Tests of files: what a search for files asks of each of them, and what it does with those that it
has found. Tests are put together to conditions, of which a part is only looked at where it counts.
-/
namespace JavaStubs.Host

/-! ## Tests -/

/-- The number that a test asks for: just that one, a greater one, or a smaller one. -/
inductive CountBound where
  | exactly (n : Nat)
  | above (n : Nat)
  | below (n : Nat)
  deriving DecidableEq, Repr

def CountBound.admits (bound : CountBound) (n : Nat) : Bool :=
  match bound with
  | .exactly m => n = m
  | .above m => m < n
  | .below m => n < m

/-- The text of a file that a pattern has to fit. -/
inductive NamePart where
  | base
  | path
  /-- What a link leads to. -/
  | target
  deriving DecidableEq, Repr

/-- How the mode of a file has to agree with another one. -/
inductive ModeBound where
  | exactly
  | all
  | any
  deriving DecidableEq, Repr

/-- A part of a format for files. -/
inductive FilePiece where
  | text (text : String)
  | directive (shape : Shape) (letter : Char)
  /-- Nothing more is printed. -/
  | stop

/-- A command to be run on files, for which two braces stand. -/
structure FileCommand where
  words : List String
  /-- Whether it is run in the directory of the file. -/
  isInside : Bool
  /-- Whether it is asked for before it is run. -/
  asks : Bool

/-- What is asked of a file, or done with it. What is printed may go to the file of a name. -/
inductive FileTest where
  | always (holds : Bool)
  | name (part : NamePart) (pattern : List Glob) (ignoresCase : Bool)
  | fits (regex : Regex) (ignoresCase : Bool)
  /-- The letter of its kind is among some; `opposite` says that links count the other way. -/
  | kind (letters : List Char) (opposite : Bool)
  | size (unit : Nat) (bound : CountBound)
  | isEmpty
  | mode (bound : ModeBound) (onFiles onDirectories : Nat)
  | grants (right : Right)
  | names (bound : CountBound)
  | isSame (location : Location)
  | isLater (location : Location)
  | print (lineEnd : String) (target : Option String)
  | printPieces (pieces : List FilePiece) (target : Option String)
  | run (command : FileCommand)
  /-- The command is run once for many files; the number tells it from others. -/
  | gather (number : Nat) (command : FileCommand)
  | delete
  | prune
  | quit

/-- Whether a test keeps files from being printed as a matter of course. -/
def FileTest.replacesPrinting : FileTest → Bool
  | .print _ _ => true
  | .printPieces _ _ => true
  | .run _ => true
  | .gather _ _ => true
  | .delete => true
  | _ => false

/-- Tests put together. -/
inductive FileCondition where
  | test (test : FileTest)
  | not (inner : FileCondition)
  | both (first second : FileCondition)
  | either (first second : FileCondition)
  /-- Only the second one counts, but the first one is looked at. -/
  | after (first second : FileCondition)

/-! ## Conditions as they are written -/

/-- A sign between tests. -/
inductive FileSign where
  | opening
  | closing
  | not
  | both
  | either
  | after
  deriving DecidableEq, Repr

/-- The sign of a word. -/
def FileSign.ofWord? : String → Option FileSign
  | "(" => some .opening
  | ")" => some .closing
  | "!" => some .not
  | "-not" => some .not
  | "-a" => some .both
  | "-and" => some .both
  | "-o" => some .either
  | "-or" => some .either
  | "," => some .after
  | _ => none

/-- How strongly a sign holds together what stands around it, if it stands between conditions. -/
def FileSign.strength : FileSign → Nat
  | .after => 1
  | .either => 2
  | .both => 3
  | .not => 4
  | _ => 0

/-- A part of a written condition. A sign that was put in between has no word of its own. -/
inductive FileMark where
  | test (test : FileTest)
  | sign (sign : FileSign) (word : String) (isOwn : Bool)

/-- Whether a condition may end with a part. -/
def FileMark.endsCondition : FileMark → Bool
  | .test _ => true
  | .sign .closing _ _ => true
  | _ => false

/-- Whether a condition may begin with a part. -/
def FileMark.beginsCondition : FileMark → Bool
  | .test _ => true
  | .sign .opening _ _ => true
  | .sign .not _ _ => true
  | _ => false

/-- The parts of a condition, with the signs that may be left out put in. -/
def FileMark.joined : List FileMark → List FileMark
  | first :: second :: rest =>
    let rest := joined (second :: rest)
    if first.endsCondition && second.beginsCondition then
      first :: .sign .both "-a" true :: rest
    else first :: rest
  | marks => marks

/-- Why parts make no condition. -/
inductive FileConditionFault where
  | nothing
  | nothingBefore (word : String)
  | nothingBetween (word : String)
  | nothingAfter (word : String)
  | surplusClosing
  | noClosing
  | lonelyOpening (word : String)
  | emptyParentheses
  deriving DecidableEq, Repr

/-- The wording of a fault. -/
def FileConditionFault.message : FileConditionFault → String
  | .nothing => "invalid expression"
  | .nothingBefore word =>
    s!"invalid expression; you have used a binary operator '{word}' with nothing before it."
  | .nothingBetween word => s!"expected an expression between '{word}' and ')'"
  | .nothingAfter word => s!"expected an expression after '{word}'"
  | .surplusClosing => "you have too many ')'"
  | .noClosing =>
    "invalid expression; I was expecting to find a ')' somewhere but did not see one."
  | .lonelyOpening word => "invalid expression; expected to find a ')' but didn't see one. " ++
    s!"Perhaps you need an extra predicate after '{word}'"
  | .emptyParentheses => "invalid expression; empty parentheses are not allowed."

namespace FileCondition

/-- The condition of two parts with a sign between them. -/
def joinedBy (sign : FileSign) (first second : FileCondition) : FileCondition :=
  match sign with
  | .either => .either first second
  | .after => .after first second
  | _ => .both first second

/-- The condition at the start of parts, up to a sign no stronger than `strength`, and what is behind
it; `before` is the sign in front, and `fuel` is more than twice the number of parts. -/
def readFrom : Nat → Nat → Option (FileSign × String) → List FileMark →
    Except FileConditionFault (FileCondition × List FileMark)
  | 0, _, _, _ => .error .nothing
  | fuel + 1, strength, before, marks => do
    let (first, rest) ← single fuel before marks
    more fuel strength first rest
where
  /-- One condition, without those that signs join to it. -/
  single (fuel : Nat) (before : Option (FileSign × String)) :
      List FileMark → Except FileConditionFault (FileCondition × List FileMark)
    | [] => .error .nothing
    | .test asked :: rest => .ok (.test asked, rest)
    | .sign .closing _ isOwn :: _ =>
      let word := (before.map Prod.snd).getD ""
      let isBehindSign := before.any fun (sign, _) => sign != .opening
      if isBehindSign && isOwn then .error (.nothingBetween word)
      else if !isOwn then .error (.nothingAfter word)
      else .error .surplusClosing
    | .sign .not word _ :: rest => do
      let (inner, rest) ← readFrom fuel FileSign.not.strength (some (.not, word)) rest
      return (.not inner, rest)
    | .sign .opening word _ :: rest =>
      match rest with
      | [] => .error (.lonelyOpening word)
      | .sign .closing _ isOwn :: _ =>
        .error (if isOwn then .emptyParentheses else .lonelyOpening word)
      | rest => do
        let (inner, rest) ← readFrom fuel 0 (some (.opening, word)) rest
        match rest with
        | .sign .closing _ _ :: rest => return (inner, rest)
        | _ => throw .noClosing
    | .sign _ word _ :: _ => .error (.nothingBefore word)
  /-- What signs join to a condition. -/
  more (fuel strength : Nat) (first : FileCondition) (rest : List FileMark) :
      Except FileConditionFault (FileCondition × List FileMark) :=
    match fuel, rest with
    | fuel + 1, .sign sign word _ :: behind =>
      if strength < sign.strength then do
        let (second, rest) ← readFrom fuel sign.strength (some (sign, word)) behind
        more fuel strength (joinedBy sign first second) rest
      else .ok (first, rest)
    | _, _ => .ok (first, rest)

/-- The condition that parts make. Where no test says otherwise, files that meet it are printed. -/
def read (marks : List FileMark) : Except FileConditionFault FileCondition := do
  let prints := marks.any fun
    | .test asked => asked.replacesPrinting
    | _ => false
  let printing : FileTest := .print "\n" none
  if marks.isEmpty then return .test printing
  let marks := if prints then marks else
    .sign .opening "(" false :: marks ++ [.sign .closing ")" false, .test printing]
  let marks := FileMark.joined marks
  match ← readFrom (2 * marks.length + 2) 0 none marks with
  | (condition, []) => return condition
  | _ => throw .surplusClosing

end FileCondition
end JavaStubs.Host

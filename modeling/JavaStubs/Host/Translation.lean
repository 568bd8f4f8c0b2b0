import JavaStubs.Host.Inputs
import JavaStubs.Host.Pattern

/-!
The program that translates, deletes and squeezes characters. Which ones is said by sets: characters
and ranges, classes, and characters repeated. A class of capital letters may stand opposite one of
small ones, and then each letter becomes the other of its kind.
-/
namespace JavaStubs.Host

open Work

/-- A character of a set as it is written, and whether it is escaped. -/
abbrev SetMark := Char × Bool

/-- A part of a set. -/
inductive SetPart where
  | char (c : Char)
  | range (low high : Char)
  | named (name : String)
  | equal (c : Char)
  /-- No count stands for as many as are needed. -/
  | repeated (c : Char) (count : Option Nat)
  deriving DecidableEq, Repr

/-- Why a set is refused. -/
inductive SetFault where
  | noName
  | noCharacter
  | unknownName (name : String)
  | manyCharacters (text : String)
  | badCount (digits : String)
  | backward (low high : Char)
  deriving DecidableEq, Repr

namespace CharSet

/-- A character in a form that can be read. -/
def shownChar (c : Char) : String :=
  let n := c.toNat
  if 0x20 ≤ n && n < 0x7F then String.singleton c
  else "\\" ++ String.ofList [Nat.digitChar (n / 64), Nat.digitChar (n / 8 % 8),
    Nat.digitChar (n % 8)]

/-- The wording of a fault. -/
def wordingOf : SetFault → String
  | .noName => "missing character class name '[::]'"
  | .noCharacter => "missing equivalence class character '[==]'"
  | .unknownName name => s!"invalid character class {quotedName name}"
  | .manyCharacters text => s!"{text}: equivalence class operand must be a single character"
  | .badCount digits => s!"invalid repeat count {quotedName digits} in [c*n] construct"
  | .backward low high =>
    let ends := shownChar low ++ "-" ++ shownChar high
    s!"range-endpoints of '{ends}' are in reverse collating sequence order"

/-! ## Reading -/

def octal (digits : List Char) : Nat :=
  digits.foldl (fun n d => 8 * n + (d.toNat - '0'.toNat)) 0

/-- Whether a character is an octal digit. -/
def isOctal (c : Char) : Bool := '0' ≤ c && c ≤ '7'

/-- A set as it is written, with its escapes read, and warnings about those that are doubtful; `fuel`
is at least the length of the text. -/
def marksFrom : Nat → List Char → List SetMark × List String
  | 0, _ => ([], [])
  | _ + 1, [] => ([], [])
  | _ + 1, ['\\'] =>
    ([('\\', false)], ["warning: an unescaped backslash at end of string is not portable"])
  | fuel + 1, '\\' :: c :: rest =>
    let plain (c : Char) :=
      let (marks, warnings) := marksFrom fuel rest
      ((c, true) :: marks, warnings)
    match c with
    | 'a' => plain '\x07'
    | 'b' => plain '\x08'
    | 'f' => plain '\x0c'
    | 'n' => plain '\n'
    | 'r' => plain '\x0d'
    | 't' => plain '\t'
    | 'v' => plain '\x0b'
    | c =>
      if !isOctal c then plain c
      else
        let digits := ((c :: rest).take 3).takeWhile isOctal
        let kept := if octal digits < 256 then digits else digits.take 2
        let (marks, warnings) := marksFrom fuel ((c :: rest).drop kept.length)
        let doubts := if kept.length < digits.length then [doubt digits] else []
        ((Char.ofNat (octal kept), true) :: marks, doubts ++ warnings)
  | fuel + 1, c :: rest =>
    let (marks, warnings) := marksFrom fuel rest
    ((c, false) :: marks, warnings)
where
  /-- The warning about an escape with too large a number. -/
  doubt (digits : List Char) : String :=
    let (two, last) := (String.ofList (digits.take 2), String.ofList (digits.drop 2))
    "warning: the ambiguous octal escape \\" ++ two ++ last ++
      " is being\n\tinterpreted as the 2-byte sequence \\0" ++ two ++ ", " ++ last

def charsOf (marks : List SetMark) : List Char := marks.map Prod.fst

/-- What stands in front of a mark and a closing bracket, and what stands behind them. -/
def upToClose (mark : Char) : List SetMark → Option (List SetMark × List SetMark)
  | a :: b :: rest =>
    if a == (mark, false) && b == (']', false) then some ([], rest)
    else (upToClose mark (b :: rest)).map fun (before, after) => (a :: before, after)
  | _ => none

/-- The repeated character that stands behind an opening bracket, and what stands behind its closing
one; nothing if there is none. -/
def repeatedAt : List SetMark → Except SetFault (Option (SetPart × List SetMark))
  | (c, _) :: ('*', false) :: rest =>
    let digits := rest.takeWhile fun (c, escaped) => c != ']' && !escaped
    match rest.drop digits.length with
    | (']', false) :: after =>
      let text := charsOf digits
      let count? : Option Nat :=
        if text.isEmpty then some 0
        else if text.head? = some '0' then
          if text.all isOctal then some (octal text) else none
        else (String.ofList text).toNat?.filter fun _ => text.all Char.isDigit
      match count? with
      | some 0 => .ok (some (.repeated c none, after))
      | some count => .ok (some (.repeated c (some count), after))
      | none => .error (.badCount (String.ofList text))
    | _ => .ok none
  | _ => .ok none

/-- Whether a star, digits and a closing bracket stand here. -/
def isStarred : List SetMark → Bool
  | ('*', false) :: rest =>
    (rest.dropWhile fun (c, escaped) => c.isDigit && !escaped).head? == some (']', false)
  | _ => false

def classNames : List String :=
  ["alpha", "digit", "alnum", "upper", "lower", "space", "blank", "punct", "print", "graph",
    "cntrl", "xdigit"]

/-- The part in brackets that stands here, and what stands behind it; nothing if there is none. -/
def bracketedAt (marks : List SetMark) : Except SetFault (Option (SetPart × List SetMark)) :=
  match marks with
  | ('[', false) :: (mark, false) :: rest =>
    match if mark == ':' || mark == '=' then upToClose mark rest else none with
    | none => repeatedAt ((mark, false) :: rest)
    | some (inner, after) =>
      let text := String.ofList (charsOf inner)
      if mark == ':' then
        if inner.isEmpty then .error .noName
        else if classNames.contains text then .ok (some (.named text, after))
        else if isStarred rest then repeatedAt ((mark, false) :: rest)
        else .error (.unknownName text)
      else match charsOf inner with
        | [] => .error .noCharacter
        | [c] => .ok (some (.equal c, after))
        | _ =>
          if isStarred rest then repeatedAt ((mark, false) :: rest)
          else .error (.manyCharacters text)
  | ('[', false) :: rest => repeatedAt rest
  | _ => .ok none

/-- The parts of a set; `fuel` is at least its length. -/
def partsFrom : Nat → List SetMark → Except SetFault (List SetPart)
  | fuel + 1, a :: b :: c :: rest => do
    match ← bracketedAt (a :: b :: c :: rest) with
    | some (part, after) => return part :: (← partsFrom fuel after)
    | none =>
      if b == ('-', false) then
        if c.1 < a.1 then throw (.backward a.1 c.1)
        return .range a.1 c.1 :: (← partsFrom fuel rest)
      return .char a.1 :: (← partsFrom fuel (b :: c :: rest))
  | _, marks => .ok ((charsOf marks).map .char)

/-- The parts of a set as it is written, and warnings about it. -/
def read (text : String) : Except SetFault (List SetPart) × List String :=
  let (marks, warnings) := marksFrom (text.length + 1) text.toList
  (partsFrom (marks.length + 1) marks, warnings)

/-! ## Members -/

def all : List Char := (List.range 256).map Char.ofNat

/-- A character of a set in its order, and whether a class of letters begins with it: `true` for
capital ones. -/
structure Member where
  char : Char
  letters : Option Bool := none
  deriving DecidableEq, Repr

/-- The members of a part; `needed` is how often a character without a count is repeated. -/
def membersOf (needed : Nat) : SetPart → List Member
  | .char c => [{ char := c }]
  | .range low high => (all.filter fun c => low ≤ c && c ≤ high).map ({ char := · })
  | .named name =>
    let chars := all.filter (inClass name)
    if name == "upper" || name == "lower" then
      (chars.take 1).map (⟨·, some (name == "upper")⟩) ++ (chars.drop 1).map ({ char := · })
    else chars.map ({ char := · })
  | .equal c => [{ char := c }]
  | .repeated c count => List.replicate (count.getD needed) { char := c }

def members (needed : Nat) (parts : List SetPart) : List Member := parts.flatMap (membersOf needed)

def chars (parts : List SetPart) : List Char := (members 0 parts).map Member.char

def isNamed : SetPart → Bool
  | .named _ => true
  | _ => false

/-- The number of characters without a count. -/
def openRepeats (parts : List SetPart) : Nat :=
  (parts.filter fun
    | .repeated _ none => true
    | _ => false).length

/-- The last character of the last part, if it is no class. -/
def lastChar? (parts : List SetPart) : Option Char :=
  match parts.getLast? with
  | some (.named _) => none
  | _ => (members 1 parts).getLast?.map Member.char

/-! ## Pairs -/

/-- The number of letters of a class. -/
def letterCount : Nat := 26

/-- The characters of one set with those of another that they become; classes of letters have to
stand opposite one another. `fuel` is more than the number of members. -/
def paired : Nat → List Member → List Member → Option (List (Char × Char))
  | fuel + 1, froms, ⟨_, some isUpper⟩ :: images =>
    match froms with
    | ⟨_, some _⟩ :: more =>
      let kind := if isUpper then Char.toUpper else Char.toLower
      let letters := (froms.take letterCount).map fun member => (member.char, kind member.char)
      (paired fuel (more.drop (letterCount - 1)) (images.drop (letterCount - 1))).map (letters ++ ·)
    | _ => none
  | fuel + 1, a :: froms, b :: images =>
    (paired fuel froms images).map ((a.char, b.char) :: ·)
  | _, _, _ => some []

/-- Why two sets do not go together. -/
inductive PairFault where
  | repeatsInFirst
  | manyRepeats
  | equalInSecond
  | classInSecond
  | misaligned
  | emptySecond
  | endsWithClass
  | variedComplement
  | repeatsInSqueezed
  deriving DecidableEq, Repr

/-- The wording of a fault. -/
def PairFault.message : PairFault → String
  | .repeatsInFirst => "the [c*] repeat construct may not appear in string1"
  | .manyRepeats => "only one [c*] repeat construct may appear in string2"
  | .equalInSecond => "[=c=] expressions may not appear in string2 when translating"
  | .classInSecond =>
    "when translating, the only character classes that may appear in\nstring2 are 'upper' and 'lower'"
  | .misaligned => "misaligned [:upper:] and/or [:lower:] construct"
  | .emptySecond => "when not truncating set1, string2 must be non-empty"
  | .endsWithClass =>
    "when translating with string1 longer than string2,\n" ++
      "the latter string must not end with a character class"
  | .variedComplement =>
    "when translating with complemented character classes,\n" ++
      "string2 must map all characters in the domain to one"
  | .repeatsInSqueezed => "the [c*] construct may appear in string2 only when translating"

/-- How characters are translated. -/
structure Translation where
  pairs : List (Char × Char)
  /-- The characters of the second set. -/
  images : List Char

/-- The translation by two sets. -/
def translation (complements truncates : Bool) (first second : List SetPart) :
    Except PairFault Translation := do
  if 0 < openRepeats first then throw .repeatsInFirst
  if 1 < openRepeats second then throw .manyRepeats
  let isEqual : SetPart → Bool
    | .equal _ => true
    | _ => false
  if second.any isEqual then throw .equalInSecond
  let isOther (part : SetPart) :=
    isNamed part && part != .named "upper" && part != .named "lower"
  if second.any isOther then throw .classInSecond
  let named := members 0 first
  let froms := if complements then
      (all.filter fun c => !(named.map Member.char).contains c).map ({ char := · })
    else named
  let images := members (froms.length - (members 0 second).length) second
  let matchesClasses := second.any isNamed && !complements
  if matchesClasses && (paired (froms.length + images.length + 1) froms images).isNone then
    throw .misaligned
  let images ← if froms.length ≤ images.length || truncates then pure images
    else if images.isEmpty then throw .emptySecond
    else match lastChar? second with
      | none => throw .endsWithClass
      | some c => pure (images ++ List.replicate (froms.length - images.length) { char := c })
  let plain (members : List Member) : List Member := members.map fun member => { char := member.char }
  let isVaried := images.length ≠ froms.length ||
    images.any fun member => images.head?.any (·.char != member.char)
  if complements && first.any isNamed && isVaried then throw .variedComplement
  let pairs := if matchesClasses then paired (froms.length + images.length + 1) froms images
    else paired (froms.length + images.length + 1) (plain froms) (plain images)
  return ⟨pairs.getD [], images.map Member.char⟩

/-- A text in which only one of each run of some characters is left. -/
def squeezed (set : List Char) : List Char → List Char
  | a :: b :: rest =>
    if a == b && set.contains a then squeezed set (b :: rest) else a :: squeezed set (b :: rest)
  | text => text

end CharSet

/-- Translates, deletes or squeezes characters of the input. -/
def tr : Work Unit := do
  let table := options "cCdst" "" [("complement", 'c'), ("delete", 'd'),
    ("squeeze-repeats", 's'), ("truncate-set1", 't')]
  match table.readLeading (← get).call.arguments with
  | .error fault => misuse fault.message 1
  | .ok given =>
    let deletes := given.has 'd'
    let squeezes := given.has 's'
    let least := if deletes == squeezes then 2 else 1
    let most := if deletes && !squeezes then 1 else 2
    match given.operands, given.operands[most]? with
    | [], _ => misuse "missing operand" 1
    | operands, some extra =>
      complain s!"extra operand {quotedName extra}" 1
      if operands.length = 2 then
        sayError "Only one string may be given when deleting without squeezing repeats.\n"
      referToHelp 1
    | [first], none =>
      if least = 2 then
        complain s!"missing operand after {quotedName first}" 1
        sayError (if squeezes
          then "Two strings must be given when both deleting and squeezing repeats.\n"
          else "Two strings must be given when translating.\n")
        referToHelp 1
      else readSet first fun set => run given set none
    | first :: second :: _, none =>
      readSet first fun set => readSet second fun other => run given set (some other)
where
  /-- Goes on with a set, if it can be read. -/
  readSet (text : String) (work : List SetPart → Work Unit) : Work Unit := do
    let (parts, warnings) := CharSet.read text
    warnings.forM fun warning => complain warning 0
    match parts with
    | .ok parts => work parts
    | .error fault => complain (CharSet.wordingOf fault) 1
  /-- The characters of the input. -/
  chars : Work (List Char) := do
    match ← takeInput with
    | .ok text => return text.toList
    | .error cause =>
      complain s!"read error: {cause.wording}" 1
      return []
  /-- Works on the input with one or two sets. -/
  run (given : Invocation) (first : List SetPart) (second : Option (List SetPart)) :
      Work Unit := do
    let complements := given.has 'c' || given.has 'C'
    let named := CharSet.chars first
    let isIn (c : Char) := named.contains c != complements
    let text ← if second.isSome && !given.has 'd' then pure [] else chars
    match second with
    | none =>
      if 0 < CharSet.openRepeats first then complain CharSet.PairFault.repeatsInFirst.message 1
      else if given.has 'd' then say (String.ofList (text.filter (!isIn ·)))
      else say (String.ofList (CharSet.squeezed (CharSet.all.filter isIn) text))
    | some second =>
      if given.has 'd' then
        if 0 < CharSet.openRepeats first then complain CharSet.PairFault.repeatsInFirst.message 1
        else if 1 < CharSet.openRepeats second then
          complain CharSet.PairFault.manyRepeats.message 1
        else if 0 < CharSet.openRepeats second then
          complain CharSet.PairFault.repeatsInSqueezed.message 1
        else
          let kept := text.filter (!isIn ·)
          say (String.ofList (CharSet.squeezed (CharSet.chars second) kept))
      else match CharSet.translation complements (given.has 't') first second with
        | .error fault => complain fault.message 1
        | .ok found =>
          let pairs := found.pairs.reverse
          let text := (← chars).map fun c => (pairs.lookup c).getD c
          say (String.ofList (if given.has 's' then CharSet.squeezed found.images text else text))

end JavaStubs.Host

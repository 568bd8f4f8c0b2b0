import JavaStubs.Shell.Session
import JavaStubs.Shell.Arithmetic
import JavaStubs.Host.Pattern
import JavaStubs.Host.Format

/-!
Expansion of words. A word is first expanded to items, which are characters that remember whether
they are quoted and whether fields may be split at them; then it is split into fields, and a field
that is a pattern is replaced by the names of files that fit it. Scripts whose output takes part in
a word are run by a procedure that is handed in.
-/
namespace JavaStubs.Shell

open Host (Glob)
open Host.Pattern (Written)

/-- An item of a word that is being expanded. -/
inductive Item where
  | char (c : Char) (quoted splits : Bool)
  /-- A quotation, which makes a field even of nothing. -/
  | mark
  /-- The end of an argument that is a field of its own. -/
  | boundary
  deriving DecidableEq, Repr

/-- Where a tilde stands for a directory. -/
inductive Tilde where
  | nowhere
  | atStart
  /-- At the start, and behind each colon. -/
  | assigned
  deriving DecidableEq, Repr

/-- How a word is expanded. -/
structure Style where
  /-- Whether it is going to be split into fields. -/
  splits : Bool
  tilde : Tilde
  /-- Whether fields may be split at its own characters. -/
  isFallback : Bool

namespace Expansion

def itemsOf (quoted splits : Bool) (text : String) : List Item :=
  text.toList.map fun c => .char c quoted (splits && !quoted)

def charsOf (items : List Item) : List Char :=
  items.filterMap fun
    | .char c _ _ => some c
    | _ => none

def textOf (items : List Item) : String := String.ofList (charsOf items)

def writtenOf (items : List Item) : List Written :=
  items.filterMap fun
    | .char c quoted _ => some (c, quoted)
    | _ => none

/-! ## Tildes -/

/-- The directory of a user, of the present one if there is no name. -/
def home (name : String) : Act (Option String) := do
  if name.isEmpty then return (← Act.valueOf? "HOME").filter (!·.isEmpty)
  return if name == "root" then some "/root" else none

/-- The characters of a text that is not quoted, with the tildes replaced; `isLast` says that the
word ends behind it, and `may` that a tilde counts at its start. -/
def withTildes (assigned isLast : Bool) : Nat → Bool → List Char → Act (List Part)
  | fuel + 1, may, c :: rest => do
    if may && c == '~' then
      let isPart (c : Char) := c != '/' && !(assigned && c == ':')
      let name := rest.takeWhile isPart
      if isLast || name.length < rest.length then
        if let some directory ← home (String.ofList name) then
          let more ← withTildes assigned isLast fuel false (rest.drop name.length)
          return .text directory true :: more
    let more ← withTildes assigned isLast fuel (assigned && c == ':') rest
    return .text (String.singleton c) false :: more
  | _, _, _ => return []

/-- A word with its tildes replaced. -/
def tildesReplaced (tilde : Tilde) (word : Word) : Act Word := do
  let replace (assigned may : Bool) (chars : String) (rest : Word) : Act Word := do
    if !chars.toList.contains '~' then return .text chars false :: rest
    return (← withTildes assigned rest.isEmpty (chars.length + 1) may chars.toList) ++ rest
  match tilde, word with
  | .atStart, .text chars false :: rest => replace false true chars rest
  | .assigned, word =>
    let parts ← (word.zipIdx).mapM fun (part, place) => do
      match part with
      | .text chars false =>
        let isLast := place + 1 == word.length
        let replaced ← replace true (place == 0) chars (if isLast then [] else [.quotes])
        pure (if isLast then replaced else replaced.dropLast)
      | part => pure [part]
    return parts.flatten
  | _, word => return word

/-! ## Parameters -/

/-- The items of all arguments, in a word that is split into fields. -/
def argumentFields (quoted : Bool) (arguments : List String) : List Item :=
  (arguments.map fun argument =>
    (if quoted then [.mark] else []) ++ itemsOf quoted true argument).intersperse [.boundary]
    |>.flatten

/-- The items of the value of a parameter. -/
def valueOf (style : Style) (name : String) (quoted : Bool) : Act (Option (List Item)) := do
  if name == "@" || name == "*" then
    let arguments := (← get).arguments
    if arguments.isEmpty then return none
    if style.splits && (!quoted || name == "@") then return some (argumentFields quoted arguments)
    let separator := match ← Act.valueOf? "IFS" with
      | some value => String.ofList (value.toList.take 1)
      | none => " "
    return some (itemsOf quoted style.splits (Text.joined separator arguments))
  return (← Act.parameter? name).map (itemsOf quoted style.splits)

/-- The value of a parameter as a text. -/
def plainValue (name : String) : Act (Option String) := do
  if name == "@" || name == "*" then
    let arguments := (← get).arguments
    return if arguments.isEmpty then none else some (Text.joined " " arguments)
  Act.parameter? name

/-- Reports a parameter that has to be set and is not. -/
def requireSet (name : String) (isSet : Bool) : Act Unit := do
  if !isSet && name != "@" && name != "*" && (← Act.hasOption 'u') then
    Act.fail s!"{name}: parameter not set"

/-- The number that a text spells as the value of a variable. -/
def numberOf (text : String) : Act Int := do
  let (negative, rest) := match text.toList.dropWhile Host.isNumberBlank with
    | '-' :: rest => (true, rest)
    | '+' :: rest => (false, rest)
    | rest => (false, rest)
  let (n, after) := Sum.numberAt rest
  let spelled := after.length < rest.length
  let value : Int := if negative then -(n : Int) else n
  let remaining := if spelled then after else text.toList
  if !(remaining.all Host.isNumberBlank) || Sum.clamped value ≠ value then
    Act.fail s!"Illegal number: {text}"
  return value

def evaluated (text : String) : Act Int := do
  let complain (message : String) : Act Int :=
    Act.fail s!"arithmetic expression: {message}: \"{text}\""
  Sum.value {
    get := fun name => do numberOf ((← Act.valueOf? name).getD "")
    set := fun name n => Act.assign name (toString n)
    fail := complain } (Sum.read text)

/-! ## Words -/

/-- A word without the quotation marks around all arguments alone, which make no field of their own
where there are no arguments. -/
def withoutIdleQuotes : Word → Word
  | .quotes :: .parameter "@" .value true :: .text chars true :: rest =>
    .quotes :: .parameter "@" .value true :: .text chars true :: withoutIdleQuotes rest
  | .quotes :: .parameter "@" .value true :: .quotes :: rest =>
    .parameter "@" .value true :: withoutIdleQuotes (.quotes :: rest)
  | .quotes :: .parameter "@" .value true :: rest =>
    .parameter "@" .value true :: withoutIdleQuotes rest
  | part :: rest => part :: withoutIdleQuotes rest
  | [] => []

/-- The items of a word; `fuel` bounds the depth of words in words. -/
def items (run : Option Command → Act String) : Nat → Style → Word → Act (List Item)
  | 0, _, _ => return []
  | fuel + 1, style, word => do
    let expand (style : Style) (word : Word) : Act (List Item) := items run fuel style word
    let plain (word : Word) : Act (List Item) := expand ⟨false, .atStart, false⟩ word
    let found ← (withoutIdleQuotes (← tildesReplaced style.tilde word)).mapM fun part => do
      match part with
      | .text chars quoted => return itemsOf quoted (style.splits && style.isFallback) chars
      | .quotes => return [.mark]
      | .output script quoted =>
        let text := (← run script).toList.filter (· != '\x00')
        return itemsOf quoted style.splits (String.ofList (Text.dropTrailing (· == '\n') text))
      | .number expression quoted =>
        let n ← evaluated (textOf (← expand ⟨false, .nowhere, false⟩ expression))
        return itemsOf quoted style.splits (toString n)
      | .parameter name use quoted =>
        let value := (← plainValue name)
        match use with
        | .value =>
          requireSet name value.isSome
          return (← valueOf style name quoted).getD []
        | .length =>
          requireSet name value.isSome
          return itemsOf quoted style.splits (toString (value.getD "").length)
        | .orElse fallback vacant word =>
          let isSet := value.any fun text => !(vacant && text.isEmpty)
          let inner : Style := ⟨style.splits, .atStart, !quoted⟩
          match fallback, isSet with
          | .alternative, true => expand inner word
          | .alternative, false => return []
          | .value, false => expand inner word
          | .assign, false =>
            let text := textOf (← plain word)
            Act.assign name text
            return itemsOf quoted style.splits text
          | .complain, false =>
            let message := textOf (← plain word)
            let message := if !word.isEmpty then message
              else if vacant then "parameter not set or null" else "parameter not set"
            Act.fail s!"{name}: {message}"
          | _, true => return (← valueOf style name quoted).getD []
        | .trimmed atEnd longest pattern =>
          requireSet name value.isSome
          let pattern := Host.Pattern.read (writtenOf (← plain pattern))
          let text := (value.getD "").toList
          let kept := if atEnd then Host.Pattern.cutEnd longest pattern text
            else Host.Pattern.cutStart longest pattern text
          return itemsOf quoted style.splits (String.ofList kept)
        | .unclear => Act.fail "Bad substitution"
    return found.flatten

/-! ## Fields -/

/-- Whether a separator is one of those of which several count as one. -/
def isBlank (c : Char) : Bool := c == ' ' || c == '\t' || c == '\n'

/-- Where splitting stands: inside a field or at its start, or behind a separator, which may have
been a blank that another separator still belongs to. -/
inductive Splitting where
  | within
  | behind (absorbs : Bool)
  deriving DecidableEq, Repr

/-- The fields of items, where `field` is the present one, the last item first. -/
def fieldsFrom (separators : List Char) : Splitting → List Item → List Item → List (List Item)
  | _, field, [] => if field.isEmpty then [] else [field.reverse]
  | _, field, .boundary :: rest =>
    (if field.isEmpty then [] else [field.reverse]) ++ fieldsFrom separators .within [] rest
  | _, field, .mark :: rest => fieldsFrom separators .within (.mark :: field) rest
  | state, field, .char c quoted splits :: rest =>
    if splits && separators.contains c then
      match state, isBlank c with
      | .behind absorbs, true => fieldsFrom separators (.behind absorbs) field rest
      | .behind true, false => fieldsFrom separators (.behind false) field rest
      | _, blank =>
        if blank && field.isEmpty then fieldsFrom separators .within [] rest
        else field.reverse :: fieldsFrom separators (.behind blank) [] rest
    else fieldsFrom separators .within (.char c quoted splits :: field) rest

/-- The names in a directory that a pattern fits. Names that begin with a dot are fitted by a dot
alone. -/
def namesIn (disk : Disk) (directory : String) (pattern : List Glob) : List String :=
  match disk.follow .look (Octets.toText (if directory.isEmpty then "." else directory)) with
  | .ok (.entry location .directory) =>
    let hidden := pattern.head? = some (.literal '.')
    let names := "." :: ".." :: (disk.tree.children location).map Octets.ofText
    if !disk.grants .read location then []
    else names.filter fun name =>
      (hidden || !name.startsWith ".") && Host.Pattern.matches_ pattern name.toList
  | _ => []

/-- The paths that patterns for the names on the way fit, behind a path that was fitted. -/
def pathsFrom (disk : Disk) (before : String) : List (List Glob) → List String
  | [] => []
  | pattern :: more =>
    let isOpen := Host.Pattern.isOpen pattern
    let names := if isOpen then namesIn disk before pattern
      else [String.ofList (pattern.filterMap fun
        | .literal c => some c
        | _ => none)]
    names.flatMap fun name =>
      let path := before ++ name
      if more.isEmpty && isOpen then [path]
      else if more.isEmpty then
        match disk.follow .entry (Octets.toText path) with
        | .ok (.entry _ _) => [path]
        | _ => []
      else pathsFrom disk (path ++ "/") more

/-- The texts between the separators of a pattern. -/
def piecesOf (written : List Written) : List (List Written) :=
  match written with
  | [] => [[]]
  | (c, quoted) :: rest =>
    if c == '/' then [] :: piecesOf rest
    else match piecesOf rest with
      | piece :: more => ((c, quoted) :: piece) :: more
      | [] => [[(c, quoted)]]

/-- The texts that a field stands for. -/
def globbed (field : List Item) : Act (List String) := do
  let written := writtenOf field
  let isCandidate := written.any fun (c, quoted) => !quoted && "*?[".toList.contains c
  if !isCandidate || (← Act.hasOption 'f') then return [textOf field]
  let patterns := (piecesOf written).map Host.Pattern.read
  if !patterns.any Host.Pattern.isOpen then return [textOf field]
  let found := pathsFrom (← get).disk "" patterns
  return if found.isEmpty then [textOf field] else found.mergeSort fun a b => a ≤ b

/-- How deep words may stand in words. -/
def depth : Nat := 1000

def fields (run : Option Command → Act String) (word : Word) : Act (List String) := do
  let items ← items run depth ⟨true, .atStart, false⟩ word
  let fields := fieldsFrom (← Act.separators) .within [] items
  return (← fields.mapM globbed).flatten

/-- The text of a word that is not split. -/
def text (run : Option Command → Act String) (tilde : Tilde) (word : Word) : Act String :=
  return textOf (← items run depth ⟨false, tilde, false⟩ word)

def pattern (run : Option Command → Act String) (word : Word) : Act (List Glob) :=
  return Host.Pattern.read (writtenOf (← items run depth ⟨false, .atStart, false⟩ word))

end Expansion
end JavaStubs.Shell

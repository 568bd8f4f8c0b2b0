import JavaStubs.Host.Condition
import JavaStubs.Host.Inputs

/-!
Names of files and the places that they lead to: how a program puts something at a place or clears
it, keeps what was there under another name, and asks before it does so.
-/
namespace JavaStubs.Host

open Work

/-! ## Names -/

/-- A name without the separators at its end; one that holds nothing else is the root's. -/
def trimmedName (name : String) : String :=
  let kept := Text.dropTrailing (· == '/') name.toList
  if kept.isEmpty && !name.isEmpty then "/" else String.ofList kept

def lastPart (name : String) : String :=
  let name := trimmedName name
  if name == "/" then name else String.ofList (Text.afterLast '/' name.toList)

/-- The name of something in a directory. -/
def insideName (directory name : String) : String :=
  if directory.endsWith "/" then directory ++ name else directory ++ "/" ++ name

/-- A name in the directory of another one. -/
def besideName (other name : String) : String :=
  if other.contains '/' then
    insideName (String.ofList (Text.beforeLast '/' other.toList)) name
  else name

/-- Whether a name leads to a directory. -/
def isDirectoryName (name : String) : Work Bool := do
  match ← entryAt .look name with
  | .ok (_, entry) => return entry.isDirectory
  | .error _ => return false

/-- A location below one directory, moved below another. -/
def rebased (from_ target location : Location) : Location :=
  location.take (location.length - from_.length) ++ target

/-- The names that lead from a directory to a location. -/
def relativeNames (directory location : Location) : List String :=
  let shared := ((directory.reverse.zip location.reverse).takeWhile fun (a, b) => a == b).length
  List.replicate (directory.length - shared) ".." ++ location.reverse.drop shared

/-- The relative path from a directory to a location. -/
def relativePath (directory location : Location) : String :=
  let names := relativeNames directory location
  if names.isEmpty then "." else Text.joined "/" names

/-! ## Places -/

/-- Sets what lies at a location, and its mode. -/
def place (location : Location) (entry : Entry) (mode : Nat) : Work Unit :=
  modify fun working =>
    let disk := working.disk
    { working with disk := { disk with tree := disk.tree.put location entry }.withMode location mode }

/-- The mode of what lies at a location. -/
def modeAt (location : Location) : Work Nat := return (← get).disk.modeAt location

/-- A mode in letters, for three classes of users. -/
def modeLetters (mode : Nat) : String :=
  let letters (place : Nat) (special : Bool) (small large : Char) : List Char :=
    let bits := mode / Nat.pow 8 place % 8
    [if bits / 4 == 1 then 'r' else '-', if bits / 2 % 2 == 1 then 'w' else '-',
      if special then (if bits % 2 == 1 then small else large)
      else if bits % 2 == 1 then 'x' else '-']
  let special (bit : Nat) : Bool := mode / 512 / bit % 2 == 1
  String.ofList (letters 2 (special 4) 's' 'S' ++ letters 1 (special 2) 's' 'S' ++
    letters 0 (special 1) 't' 'T')

/-- Why nothing may be made or removed at a location, if that is so. -/
def changeFault? (location : Location) : Work (Option OsCause) :=
  return if (← get).disk.mayChange location then none else some .denied

/-- Clears a location and all below it. -/
def clear (location : Location) : Work Unit :=
  modify fun working =>
    let disk := working.disk
    { working with disk := { disk with
        tree := ⟨disk.tree.entries.filter fun (other, _) => !location.isSuffixOf other⟩
        modes := disk.modes.filter fun (other, _) => !location.isSuffixOf other } }

/-- Moves what lies at a location, with all below it, to another one. -/
def shift (source target : Location) : Work Unit := do
  let disk := (← get).disk
  let entry := disk.tree.get? source
  let moved := (entry.toList.map fun entry => (source, entry)) ++ disk.tree.below source
  clear source
  moved.reverse.forM fun (old, entry) =>
    place (rebased source target old) entry (disk.modeAt old)

/-- Whether something was changed later than something else. -/
def isLater (a b : Location) : Work Bool := do
  let changes := (← get).disk.tree.entries.map Prod.fst
  return changes.findIdx (· == a) < changes.findIdx (· == b)

/-! ## Questions -/

/-- Asks a question, and tells whether the next line of the input says yes. -/
def confirmed (question : String) : Work Bool := do
  sayError s!"{(← get).call.name}: {question}? "
  let input := (← get).input.toList
  let answer := input.takeWhile (· != '\n')
  modify fun working => { working with input := String.ofList (input.drop (answer.length + 1)) }
  return answer.head? == some 'y' || answer.head? == some 'Y'

/-- When a program asks before it replaces something. -/
inductive Asking where
  | never
  | always
  /-- Nothing is replaced, and nothing is asked. -/
  | refusing
  deriving DecidableEq, Repr

/-! ## Old files -/

/-- How old files are kept: under a name with an ending, or with a number. -/
inductive KeptName where
  | simple
  | numbered
  | existing
  deriving DecidableEq, Repr

/-- Whether and how old files are kept. -/
structure Keeping where
  kind : Option KeptName := none
  ending : String := "~"

/-- The words for ways to keep old files; nothing stands for keeping none. -/
def keepingWords : List (String × Option KeptName) :=
  [("none", none), ("off", none), ("simple", some .simple), ("never", some .simple),
    ("existing", some .existing), ("nil", some .existing), ("numbered", some .numbered),
    ("t", some .numbered)]

/-- The letter that stands for the word `--backup`, whose value may be left out. -/
def backupWord : Char := '\x1a'

/-- The way to keep old files that options and the environment ask for: `b`, or a word, and `S` for
an ending. -/
def Keeping.ofOptions (options : List (Char × String)) (environment : Environment) :
    Except ChoiceFault Keeping := do
  let last? (letters : List Char) :=
    (options.filter fun (letter, _) => letters.contains letter).getLast?.map Prod.snd
  let ending := (last? ['S']).orElse fun _ => environment.lookup "SIMPLE_BACKUP_SUFFIX"
  let ending := (ending.filter fun text => !text.isEmpty && !text.contains '/').getD "~"
  let chosen (purpose word : String) : Except ChoiceFault Keeping := do
    if word.isEmpty then return ⟨some .existing, ending⟩
    return ⟨← chosenBy purpose keepingWords word, ending⟩
  match last? ['b', backupWord], last? ['S'] with
  | none, none => return {}
  | some word, _ =>
    if word.isEmpty then
      chosen "$VERSION_CONTROL" ((environment.lookup "VERSION_CONTROL").getD "")
    else chosen "backup type" word
  | none, some _ => chosen "$VERSION_CONTROL" ((environment.lookup "VERSION_CONTROL").getD "")

/-- The number of the last old file that is kept of a name, among others. -/
def lastNumber (name : String) (others : List String) : Nat :=
  (others.filterMap fun other =>
    (Text.pastStart? (name ++ ".~").toList other.toList).bind fun rest =>
      if rest.getLast? = some '~' then (String.ofList rest.dropLast).toNat? else none).foldl max 0

/-- The name under which the old file of a name is kept, in a directory with some names. -/
def Keeping.nameFor (keeping : Keeping) (name : String) (others : List String) : Option String :=
  let last := lastNumber name others
  let numbered := s!"{name}.~{last + 1}~"
  keeping.kind.map fun
    | .simple => name ++ keeping.ending
    | .numbered => numbered
    | .existing => if last = 0 then name ++ keeping.ending else numbered

/-- Keeps what lies at a location under another name, if it is asked for, and tells that name. -/
def Keeping.keep (keeping : Keeping) (location : Location) : Work (Option String) := do
  match location with
  | [] => return none
  | name :: directory =>
    let others := (← get).disk.tree.children directory
    match keeping.nameFor name others with
    | none => return none
    | some kept =>
      clear (kept :: directory)
      shift location (kept :: directory)
      return some (Octets.ofText kept)

end JavaStubs.Host

import JavaStubs.Host.FileTestWords
import JavaStubs.Host.Launchers

namespace JavaStubs.Host

open Work

/-! ## Files -/

/-- A file that a search has come to. -/
structure FoundFile where
  path : String
  /-- The operand that the search started from. -/
  start : String
  depth : Nat
  /-- Where the file lies in its directory, and what lies there. -/
  spot : Location
  own : Entry
  /-- What it counts as; that is another entry where links are followed. -/
  location : Location
  entry : Entry

/-- The letter for the kind of an entry. -/
def Entry.kindLetter : Entry → Char
  | .directory => 'd'
  | .link _ => 'l'
  | .sink => 'c'
  | _ => 'f'

/-- The number of bytes of an entry; a link is as long as its target. -/
def fileSize : Entry → Nat
  | .link target => target.utf8ByteSize
  | .sink => 0
  | entry => Disk.size entry

/-- The number of half kilobytes that an entry takes up. -/
def fileBlocks : Entry → Nat
  | .link _ => 0
  | entry => (fileSize entry + 4095) / 4096 * 8

/-- The number of names of a file; each directory in another one is a name of that. -/
def namesOf (disk : Disk) (location : Location) (entry : Entry) : Nat :=
  if !entry.isDirectory then 1
  else 2 + ((disk.tree.children location).filter fun name =>
    (disk.tree.get? (name :: location)).any (·.isDirectory)).length

namespace FoundFile

/-- The last part of the path, with one separator if some stand behind it. -/
def baseName (file : FoundFile) : String :=
  let base := lastPart file.path
  if base != "/" && file.path.endsWith "/" then base ++ "/" else base

/-- The path in front of its last part. -/
def directoryName (file : FoundFile) : String :=
  let kept := Text.dropTrailing (· == '/') file.path.toList
  let path := if kept.contains '/' then kept else file.path.toList
  if path.contains '/' then String.ofList (Text.beforeLast '/' path) else "."

/-- The path from the start of the search. -/
def innerPath (file : FoundFile) : String :=
  String.ofList ((file.path.toList.drop file.start.length).dropWhile (· == '/'))

/-- What lies behind a file that may be a link. -/
def behind (file : FoundFile) (disk : Disk) : Except OsCause (Location × Entry) :=
  match disk.resolve .look [] file.spot.reverse with
  | .ok (.entry location entry) => .ok (location, entry)
  | .ok (.vacant _) => .error .notFound
  | .error cause => .error cause

/-- The letter for the kind of a file when links count the other way. -/
def otherKind (file : FoundFile) (disk : Disk) : Char :=
  if file.location != file.spot then Entry.kindLetter file.own
  else match file.behind disk with
    | .ok (_, entry) => Entry.kindLetter entry
    | .error _ => Entry.kindLetter file.own

/-- What a directive of a format tells of a file. -/
def told (file : FoundFile) (disk : Disk) (shape : Shape) (letter : Char) : String :=
  let mode := disk.modeAt file.location
  let text (text : String) : String := shape.text text
  match letter with
  | 'p' => text file.path
  | 'f' => text file.baseName
  | 'h' => text file.directoryName
  | 'P' => text file.innerPath
  | 'H' => text file.start
  | 's' => text (toString (fileSize file.entry))
  | 'd' => shape.decimal file.depth
  | 'm' => shape.based 8 false mode
  | 'M' => text (String.ofList
      [if file.entry.isFile then '-' else Entry.kindLetter file.entry] ++ modeLetters mode)
  | 'n' => text (toString (namesOf disk file.location file.entry))
  | 'l' => text (match file.entry with
      | .link target => Octets.ofText target
      | _ => "")
  | 'y' => text (String.ofList [Entry.kindLetter file.entry])
  | 'Y' => text (match file.behind disk with
      | .ok (_, entry) => String.ofList [Entry.kindLetter entry]
      | .error .tooManyLinks => "L"
      | .error _ => "N")
  | 'k' => text (toString (fileBlocks file.entry / 2))
  | 'b' => text (toString (fileBlocks file.entry))
  | 'u' => text "root"
  | 'g' => text "root"
  | 'U' => text "0"
  | 'G' => text "0"
  | _ => ""

end FoundFile

/-- What a format tells of a file. -/
def FilePiece.told (file : FoundFile) (disk : Disk) : List FilePiece → String
  | [] => ""
  | .stop :: _ => ""
  | .text words :: rest => words ++ told file disk rest
  | .directive shape letter :: rest => file.told disk shape letter ++ told file disk rest

/-! ## Looking at files -/

/-- Files that a command is yet to be run for. -/
structure Gathered where
  number : Nat
  command : FileCommand
  /-- The directory to run it in and how deep the files lie, if that is another one. -/
  directory : Option (Location × Nat)
  /-- The names of the files, the last one first. -/
  names : List String

/-- Where a search stands. -/
structure SearchProgress where
  gathered : List Gathered := []
  /-- Whether the search is over. -/
  isOver : Bool := false
  /-- Whether the directory that is looked at is not entered. -/
  prunes : Bool := false

/-- A step of a search. -/
abbrev SearchStep := StateT SearchProgress Work

namespace FileSearch

/-- Runs the program of some words in a directory, and tells its code, if it could be run. -/
def codeOf (start : Starter) (directory : Option Location) (words : List String) :
    Work (Option Int) := do
  let code := (← get).code
  let here := (← get).disk.here
  let move (here : Location) : Work Unit :=
    modify fun working => { working with disk := { working.disk with here } }
  move (directory.getD here)
  let name := words.head?.getD ""
  let result ← launchNamed start name (words.drop 1) (← get).call.environment
  move here
  match result with
  | .error cause =>
    complain s!"{markedName name}: {cause.wording}" code
    return none
  | .ok () =>
    let found := (← get).code
    fail code
    if found < 0 then complain s!"{markedName name} terminated by signal {found.natAbs}" code
    return some found

/-- The name of a file in a command, and the directory that the command is run in. -/
def nameFor (command : FileCommand) (file : FoundFile) : String × Option Location :=
  if !command.isInside then (file.path, none)
  else
    let base := lastPart file.path
    let directory := if base == "." || base == ".." then file.spot else file.spot.tail
    (if base == "/" then base else "./" ++ base, some directory)

/-- Runs a command on a file, and tells whether it has succeeded. -/
def run (start : Starter) (command : FileCommand) (file : FoundFile) : Work Bool := do
  let (name, directory) := nameFor command file
  let words := command.words.map (·.replace FileWordStep.braces name)
  if !command.asks then return (← codeOf start directory words) == some 0
  let program := words.head?.getD ""
  sayError s!"< {program} ... {file.path} > ? "
  let input := (← get).input.toList
  let answer := input.takeWhile (· != '\n')
  let rest := String.ofList (input.drop (answer.length + 1))
  if answer.head? != some 'y' && answer.head? != some 'Y' then
    modify fun working => { working with input := rest }
    return false
  modify fun working => { working with input := "" }
  let code ← codeOf start directory words
  modify fun working => { working with input := rest }
  return code == some 0

/-- Runs a command for the files that were gathered. -/
def runGathered (start : Starter) (gathered : Gathered) : Work Unit := do
  let words := gathered.command.words ++ gathered.names.reverse
  if (← codeOf start (gathered.directory.map Prod.fst) words) != some 0 then fail 1

/-- Adds a file to those gathered for a command; those of another directory do not wait. -/
def gather (start : Starter) (number : Nat) (command : FileCommand) (file : FoundFile) :
    SearchStep Unit := do
  let (name, directory) := nameFor command file
  let directory := directory.map fun location => (location, file.depth)
  let (same, others) := (← get).gathered.partition (·.number == number)
  match same with
  | [waiting] =>
    if waiting.directory == directory then
      modify fun progress => { progress with
        gathered := { waiting with names := name :: waiting.names } :: others }
    else
      liftM (m := Work) (runGathered start waiting)
      modify fun progress => { progress with
        gathered := ⟨number, command, directory, [name]⟩ :: others }
  | _ => modify fun progress => { progress with
      gathered := ⟨number, command, directory, [name]⟩ :: others }

/-- Removes a file, and tells whether it is gone. -/
def delete (file : FoundFile) : Work Bool := do
  if file.path == "." then return true
  let isFull := file.own.isDirectory && !((← get).disk.tree.children file.spot).isEmpty
  let obstacle ← if isFull then pure (some OsCause.notEmpty) else changeFault? file.spot
  match obstacle with
  | some cause =>
    complain s!"cannot delete {markedName file.path}: {cause.wording}" 1
    return false
  | none =>
    clear file.spot
    return true

/-- Prints to the output, or to the file of a name. -/
def print (target : Option String) (text : String) : Work Unit :=
  match target with
  | none => say text
  | some name => do let _ ← writeText name text true

/-- Whether a text of a file fits a pattern. -/
def fitsName (file : FoundFile) (part : NamePart) (pattern : List Glob) (ignoresCase : Bool) : Bool :=
  let text : Option String := match part with
    | .base => some (lastPart file.path)
    | .path => some file.path
    | .target =>
      match file.entry with
      | .link target => some (Octets.ofText target)
      | _ => none
  text.any fun text =>
    Pattern.matches_ pattern (if ignoresCase then text.toLower else text).toList

/-- Whether a file meets a test. -/
def meetsTest (start : Starter) (insideFirst : Bool) (file : FoundFile) (test : FileTest) :
    SearchStep Bool := do
  let disk := (← getThe Working).disk
  match test with
  | .always holds => return holds
  | .name part pattern ignoresCase => return fitsName file part pattern ignoresCase
  | .fits regex ignoresCase =>
    let text := file.path.toList
    return (regex.places ⟨ignoresCase, false⟩ (text.length + 2) ⟨[], text, []⟩).any
      (·.rest.isEmpty)
  | .kind letters opposite =>
    return letters.contains (if opposite then file.otherKind disk else Entry.kindLetter file.entry)
  | .size unit bound => return bound.admits ((fileSize file.entry + unit - 1) / unit)
  | .isEmpty =>
    if file.entry.isDirectory then return (disk.tree.children file.location).isEmpty
    else return file.entry.isFile && fileSize file.entry == 0
  | .mode bound onFiles onDirectories =>
    let mode := disk.modeAt file.location
    let asked := if file.entry.isDirectory then onDirectories else onFiles
    return match bound with
      | .exactly => mode == asked
      | .all => mode &&& asked == asked
      | .any => mode &&& asked != 0
  | .grants right =>
    return match file.behind disk with
      | .ok (location, _) => disk.grants right location
      | .error _ => false
  | .names bound => return bound.admits (namesOf disk file.location file.entry)
  | .isSame location => return file.location == location
  | .isLater location => liftM (m := Work) (isLater file.location location)
  | .print lineEnd target =>
    liftM (m := Work) (print target (file.path ++ lineEnd))
    return true
  | .printPieces pieces target =>
    liftM (m := Work) (print target (FilePiece.told file disk pieces))
    return true
  | .run command => liftM (m := Work) (run start command file)
  | .gather number command =>
    gather start number command file
    return true
  | .delete => liftM (m := Work) (delete file)
  | .prune =>
    modify fun progress => { progress with prunes := !insideFirst }
    return true
  | .quit =>
    modify fun progress => { progress with isOver := true }
    return true

/-- Whether a file meets a condition. -/
def meets (start : Starter) (insideFirst : Bool) (file : FoundFile) :
    FileCondition → SearchStep Bool
  | .test test => meetsTest start insideFirst file test
  | .not inner => return !(← meets start insideFirst file inner)
  | .both first second => do
    if !(← meets start insideFirst file first) || (← get).isOver then return false
    meets start insideFirst file second
  | .either first second => do
    if (← meets start insideFirst file first) || (← get).isOver then return true
    meets start insideFirst file second
  | .after first second => do
    let _ ← meets start insideFirst file first
    if (← get).isOver then return false
    meets start insideFirst file second

/-! ## Walking -/

/-- Looks at a file and, if it is a directory, at all below it; `above` are the directories on the
way there with their paths, and `fuel` bounds the depth. -/
def walk (start : Starter) (plan : FileSearchPlan) (condition : FileCondition) :
    Nat → List (Location × String) → FoundFile → SearchStep Unit
  | 0, _, _ => return
  | fuel + 1, above, file => do
    let refuse (message : String) : SearchStep Unit := liftM (m := Work) (complain message 1)
    if let some (_, path) := above.find? fun (location, _) => location == file.location then
      refuse (s!"File system loop detected; {markedName file.path} is part of the same file system " ++
        s!"loop as {markedName path}.")
      return
    let look : SearchStep Unit := do
      modify fun progress => { progress with prunes := false }
      if plan.least ≤ file.depth then let _ ← meets start plan.insideFirst file condition
    let enters := file.entry.isDirectory && plan.most.all (file.depth < ·)
    if !plan.insideFirst || !enters then look
    if !enters || (← get).prunes || (← get).isOver then return
    let disk := (← getThe Working).disk
    if !(disk.tree.get? file.location).any (·.isDirectory) then
      refuse s!"{markedName file.path}: {OsCause.notFound.wording}"
    else if !disk.grants .read file.location then
      refuse s!"{markedName file.path}: {OsCause.denied.wording}"
    else
      (disk.tree.children file.location).reverse.forM fun name => do
        if (← get).isOver then return
        let disk := (← getThe Working).disk
        let spot := name :: file.location
        let path := insideName file.path (Octets.ofText name)
        match disk.tree.get? spot with
        | none => refuse s!"{markedName path}: {OsCause.notFound.wording}"
        | some own =>
          if !disk.enters file.location then refuse s!"{markedName path}: {OsCause.denied.wording}"
          else
            let inner : FoundFile := ⟨path, file.start, file.depth + 1, spot, own, spot, own⟩
            let (location, entry) := match plan.follows, inner.behind disk with
              | .always, .ok found => found
              | _, _ => (spot, own)
            walk start plan condition fuel ((file.location, file.path) :: above)
              { inner with location, entry }
      if plan.insideFirst && !(← get).isOver then look

/-- The bound on how deep directories lie in one another. -/
def searchDepth : Nat := 4096

/-- Searches from an operand. -/
def search (start : Starter) (plan : FileSearchPlan) (condition : FileCondition) (operand : String) :
    SearchStep Unit := do
  if (← get).isOver then return
  let own ← liftM (m := Work) (entryAt .entry operand)
  let behind ← liftM (m := Work) (entryAt .look operand)
  match own, if plan.follows == .never || !behind.isOk then own else behind with
  | .ok (spot, own), .ok (location, entry) =>
    walk start plan condition searchDepth [] ⟨operand, operand, 0, spot, own, location, entry⟩
  | .error cause, _ => liftM (m := Work) (complain s!"{markedName operand}: {cause.wording}" 1)
  | _, .error cause => liftM (m := Work) (complain s!"{markedName operand}: {cause.wording}" 1)

end FileSearch

/-! ## The program -/

/-- The way to follow links that leading options ask for, and the words behind these. -/
def leadingOptions (follows : LinkFollowing) :
    List String → Except FileWordFault (LinkFollowing × List String)
  | [] => .ok (follows, [])
  | "-H" :: rest => leadingOptions .atStart rest
  | "-L" :: rest => leadingOptions .always rest
  | "-P" :: rest => leadingOptions .never rest
  | "--" :: rest => .ok (follows, rest)
  | word :: rest =>
    match word.toList with
    | '-' :: 'O' :: level =>
      if level.isEmpty then
        .error (.worded "The -O option must be immediately followed by a decimal integer")
      else if !(level.head?.any Char.isDigit) then
        .error (.worded "Please specify a decimal number immediately after -O")
      else if !level.all Char.isDigit then
        .error (.worded s!"Invalid optimisation level {String.ofList level}")
      else leadingOptions follows rest
    | _ => .ok (follows, word :: rest)

/-- Searches for files. -/
def find (start : Starter) : Work Unit := do
  let refuse (fault : FileWordFault) : Work Unit :=
    fault.messages.forM fun message => complain message 1
  match leadingOptions .never (← get).call.arguments with
  | .error fault => refuse fault
  | .ok (follows, words) =>
    let operands := words.takeWhile fun word => !FileWordStep.beginsCondition true word
    let condition := words.drop operands.length
    match ← ((FileWordStep.conditionOf condition).run { plan := { follows } }).run with
    | .error fault => refuse fault
    | .ok (condition, words) =>
      let operands := if operands.isEmpty then ["."] else operands
      let (_, progress) ← (operands.forM (FileSearch.search start words.plan condition)).run {}
      let waiting := progress.gathered.mergeSort fun a b => a.number ≤ b.number
      waiting.forM (FileSearch.runGathered start)

end JavaStubs.Host

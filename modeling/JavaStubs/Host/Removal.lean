import JavaStubs.Host.BasicTools
import JavaStubs.Host.Places

namespace JavaStubs.Host

open Work

/-! ## Removing trees -/

/-- How files are removed. -/
structure RemovalPlan where
  isDeep : Bool
  /-- Whether empty directories are removed. -/
  emptyToo : Bool
  /-- Whether what is missing is no fault. -/
  ignoresMissing : Bool
  /-- Whether each removal is asked for. -/
  asks : Bool
  isVerbose : Bool
  /-- Whether the root stays. -/
  guardsRoot : Bool

/-- What kind of file an entry is, in words. -/
def entryKind (entry : Entry) : String :=
  match entry with
  | .directory => "directory"
  | .link _ => "symbolic link"
  | .sink => "character special file"
  | entry => if Disk.size entry == 0 then "regular empty file" else "regular file"

/-- Whether an entry may be removed, which may be asked for. -/
def mayRemove (plan : RemovalPlan) (name : String) (entry : Entry) : Work Bool := do
  if plan.asks then confirmed s!"remove {entryKind entry} {quotedName name}" else return true

/-- Removes one entry that holds nothing, and tells about it. -/
def removeEntry (plan : RemovalPlan) (name : String) (location : Location) (entry : Entry) :
    Work Unit := do
  clear location
  if plan.isVerbose then
    let kind := if entry.isDirectory then "directory " else ""
    say s!"removed {kind}{quotedName name}\n"

/-- Removes what lies at a location, with all below it, and tells whether the directory above it
stays for that; `stays` says why the entry itself cannot be removed, and `fuel` bounds the depth. -/
def removeTree (plan : RemovalPlan) (stays : Option OsCause) : Nat → String → Location → Entry →
    Work Bool
  | 0, _, _, _ => return true
  | fuel + 1, name, location, entry => do
    let names := (← get).disk.tree.children location
    if !entry.isDirectory || names.isEmpty then
      if ← mayRemove plan name entry then removeAs name location entry
      else return entry.isDirectory
    else if !(← get).disk.grants .read location then
      complain s!"cannot remove {quotedName name}: {OsCause.denied.wording}" 1
      return true
    else
      let enters ← if plan.asks then confirmed s!"descend into directory {quotedName name}"
        else pure true
      if !enters then return true
      let isKept ← names.reverse.foldlM (fun isKept child => do
        let disk := (← get).disk
        let inner := insideName name (Octets.ofText child)
        match disk.tree.get? (child :: location) with
        | none => return isKept
        | some entry =>
          if !disk.enters location then
            complain s!"cannot remove {quotedName inner}: {OsCause.denied.wording}" 1
            return true
          return (← removeTree plan none fuel inner (child :: location) entry) || isKept) false
      if isKept then return true
      if ← mayRemove plan name entry then removeAs name location entry else return false
where
  /-- Removes an entry whose removal is settled, if it is possible. -/
  removeAs (name : String) (location : Location) (entry : Entry) : Work Bool := do
    let isEmpty := ((← get).disk.tree.children location).isEmpty
    let denied ← changeFault? location
    match if isEmpty then stays.orElse fun _ => denied else some .notEmpty with
    | some cause =>
      complain s!"cannot remove {quotedName name}: {cause.wording}" 1
      return true
    | none =>
      removeEntry plan name location entry
      return false

/-- The name of an operand as it is told: of several separators at its end one is kept. -/
def toldName (name : String) : String :=
  let trimmed := trimmedName name
  if trimmed == "/" || !name.endsWith "/" then name else trimmed ++ "/"

/-- The bound on how deep directories lie in one another. -/
def removalDepth : Nat := 4096

/-- Removes what an operand names. -/
def removeOperand (plan : RemovalPlan) (name : String) : Work Unit := do
  let refused (cause : OsCause) : Work Unit :=
    complain s!"cannot remove {quotedName (toldName name)}: {cause.wording}" 1
  match ← entryAt .entry name with
  | .error cause =>
    let isAbsent := cause == .notFound || cause == .notDirectory
    if !(plan.ignoresMissing && isAbsent) then refused cause
  | .ok (location, entry) =>
    let last := lastPart name
    if entry.isDirectory && !plan.isDeep &&
        !(plan.emptyToo && ((← get).disk.tree.children location).isEmpty) then
      refused (if plan.emptyToo then .notEmpty else .isDirectory)
    else if entry.isDirectory && (last == "." || last == "..") then
      complain (s!"refusing to remove '.' or '..' directory: skipping " ++
        quotedName (toldName name)) 1
    else if entry.isDirectory && location.isEmpty && plan.guardsRoot then
      let same := if name == "/" then "" else " (same as '/')"
      complain s!"it is dangerous to operate recursively on {quotedName name}{same}" 1
      complain "use --no-preserve-root to override this failsafe" 1
    else
      let isLink ← isLinkName name
      let stays := if name.endsWith "/" && isLink then some OsCause.notDirectory else none
      let _ ← removeTree plan stays removalDepth (toldName name) location entry
where
  /-- Whether a name, without separators at its end, is that of a link. -/
  isLinkName (name : String) : Work Bool := do
    match ← entryAt .entry (trimmedName name) with
    | .ok (_, .link _) => return true
    | _ => return false

/-! ## The programs -/

/-- When removals are asked for. -/
inductive RemovalAsking where
  | never
  /-- Once, where many files or whole directories are named. -/
  | once
  | always
  deriving DecidableEq, Repr

/-- The words for the times when removals are asked for. -/
def removalAskings : List (String × RemovalAsking) :=
  [("never", .never), ("no", .never), ("none", .never), ("once", .once), ("always", .always),
    ("yes", .always)]

/-- The letter that stands for the word `--interactive`. -/
def askingWord : Char := '\x01'

/-- When removals are asked for, by the last option that says it. -/
def removalAsking (given : Invocation) : Except ChoiceFault (Option RemovalAsking) :=
  match (given.options.filter fun (letter, _) =>
    ['f', 'i', 'I', askingWord].contains letter).getLast? with
  | none => .ok none
  | some ('f', _) => .ok (some .never)
  | some ('i', _) => .ok (some .always)
  | some ('I', _) => .ok (some .once)
  | some (_, word) =>
    if word.isEmpty then .ok (some .always)
    else (chosenBy "--interactive" removalAskings word).map some

/-- Removes files, and directories if they are asked for. -/
def rm : Work Unit := do
  let isShort (argument : String) : Bool :=
    argument.length < 18 && 4 < argument.length && "--no-preserve-root".startsWith argument
  let arguments := (← get).call.arguments.takeWhile (· != "--")
  let table : OptionTable := { options "dfirvIR\x02\x03\x04" "" [("dir", 'd'), ("force", 'f'),
      ("recursive", 'r'), ("verbose", 'v'), ("interactive", askingWord), ("preserve-root", '\x02'),
      ("no-preserve-root", '\x03'), ("one-file-system", '\x04')]
    with optional := [askingWord, '\x02'] }
  match table.read (← get).call.arguments with
  | .error fault =>
    complain fault.message 1
    if let some name ← (← get).call.arguments.findM? isHyphenName then
      sayError s!"Try '{(← get).call.name} ./{shownName name}' to remove the file {quotedName name}.\n"
    referToHelp 1
  | .ok given =>
    let rootWords := (given.options.filter (·.1 == '\x02')).map Prod.snd
    match removalAsking given, rootWords.find? fun word => !(word.isEmpty || word == "all") with
    | .error fault, _ => misuse fault.message 1
    | _, some word => complain s!"unrecognized --preserve-root argument: {quotedName word}" 1
    | .ok asking, none =>
      let isDeep := given.has 'r' || given.has 'R'
      let ignores := ignoresMissing given
      let count := given.operands.length
      if arguments.any isShort then
        complain "you may not abbreviate the --no-preserve-root option" 1
      else if given.operands.isEmpty then
        if !ignores then misuse "missing operand" 1
      else
        let goesOn ← if asking == some .once && (isDeep || 3 < count) then
            let noun := if count == 1 then "argument" else "arguments"
            let ending := if isDeep then " recursively" else ""
            confirmed s!"remove {count} {noun}{ending}"
          else pure true
        if goesOn then
          given.operands.forM (removeOperand {
            isDeep, emptyToo := given.has 'd', ignoresMissing := ignores
            asks := asking == some .always, isVerbose := given.has 'v'
            guardsRoot := given.last? ['\x02', '\x03'] != some '\x03' })
where
  /-- Whether something that looks like an option is the name of a file. -/
  isHyphenName (argument : String) : Work Bool := do
    if !argument.startsWith "-" || argument.length ≤ 1 then return false
    return (← entryAt .entry argument).isOk
  /-- Whether what is missing is no fault, by the last option that says it. -/
  ignoresMissing (given : Invocation) : Bool :=
    let said := given.options.filter fun (letter, word) =>
      ['f', 'i', 'I'].contains letter || (letter == askingWord &&
        (word.isEmpty || !("never".startsWith word || "none".startsWith word)))
    (said.getLast?.map Prod.fst) == some 'f'

/-- The location of a directory that can be removed. -/
def removableDirectory (name : String) : Work (Except OsCause Location) := do
  let last := lastPart name
  match ← entryAt .entry (trimmedName name) with
  | .error cause => return .error cause
  | .ok (location, entry) =>
    if !entry.isDirectory then return .error .notDirectory
    else if last == "." then return .error (.other 22 "Invalid argument")
    else if last == "/" then return .error (.other 16 "Device or resource busy")
    else if last == ".." then return .error .notEmpty
    else match ← changeFault? location with
      | some cause => return .error cause
      | none =>
        let isEmpty := ((← get).disk.tree.children location).isEmpty
        return if isEmpty then .ok location else .error .notEmpty

/-- The directories above a name, the nearest first. -/
def directoriesAbove (name : String) : List String :=
  let parts := (Text.fieldsOf '/' (trimmedName name)).zipIdx
  let starts := (parts.filter fun (part, place) => place != 0 && !part.isEmpty).map Prod.snd
  (starts.map fun count =>
    let text := Text.joined "/" ((parts.take count).map Prod.fst)
    if trimmedName text == "" then "/" else trimmedName text).reverse

/-- Whether a name is that of a link that leads to no file, with a separator behind it. -/
def isUnfollowed (name : String) : Work Bool := do
  if !name.endsWith "/" then return false
  match ← entryAt .entry (trimmedName name), ← entryAt .look name with
  | .ok (_, .link _), .error cause => return cause != .notDirectory
  | .ok (_, .link _), .ok (_, entry) => return entry.isDirectory
  | _, _ => return false

/-- Removes empty directories. -/
def rmdir : Work Unit :=
  withOptions (options "pv\x01" "" [("parents", 'p'), ("path", 'p'), ("verbose", 'v'),
      ("ignore-fail-on-non-empty", '\x01')]) 1 fun given => do
    if given.operands.isEmpty then misuse "missing operand" 1
    given.operands.forM fun name => do
      let isGone ← remove given name fun cause => do
        let isLink ← isUnfollowed name
        let wording := if cause == .notDirectory && isLink then "Symbolic link not followed"
          else cause.wording
        complain s!"failed to remove {quotedName name}: {wording}" 1
      if isGone && given.has 'p' then
        let _ ← (directoriesAbove name).foldlM (fun goesOn above => do
          if !goesOn then return false
          remove given above fun cause => do
            let kind := if cause == .notDirectory then "" else "directory "
            complain s!"failed to remove {kind}{quotedName above}: {cause.wording}" 1) true
where
  /-- Removes a directory, and tells whether it is gone. -/
  remove (given : Invocation) (name : String) (refused : OsCause → Work Unit) : Work Bool := do
    if given.has 'v' then
      say s!"{(← get).call.name}: removing directory, {quotedName name}\n"
    match ← removableDirectory name with
    | .ok location =>
      clear location
      return true
    | .error cause =>
      if !(given.has '\x01' && cause == .notEmpty) then refused cause
      return false

/-- Removes one file. -/
def unlink : Work Unit :=
  withOptions (options "" "" []) 1 fun given => do
    match given.operands with
    | [] => misuse "missing operand" 1
    | _ :: extra :: _ => extraOperand extra 1
    | [name] =>
      match ← entryAt .entry name with
      | .error cause => complain s!"cannot unlink {quotedName name}: {cause.wording}" 1
      | .ok (location, entry) =>
        if entry.isDirectory then
          complain s!"cannot unlink {quotedName name}: {OsCause.isDirectory.wording}" 1
        else match ← changeFault? location with
          | some cause => complain s!"cannot unlink {quotedName name}: {cause.wording}" 1
          | none => clear location

end JavaStubs.Host

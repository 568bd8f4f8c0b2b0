import JavaStubs.Host.Places

/-!
Programs that copy and move files. A plan says what is done with what is already at the place where
something is to be put, and a log keeps what one call has dealt with, so that nothing that was just
made is lost again.
-/
namespace JavaStubs.Host

open Work

/-! ## Operands -/

/-- Where several files are put. -/
inductive Destination where
  /-- In a directory, under their own names. -/
  | directory (name : String)
  /-- One file, under another name. -/
  | file (source name : String)

/-- The sources and the destination that operands name, unless they are refused: `t` names the
directory, and `T` says that the last operand is none. -/
def destinationOf (given : Invocation) : Work (Option (List String × Destination)) := do
  let refused : Option (List String × Destination) := none
  let directories := (given.options.filter (·.1 == 't')).map Prod.snd
  match given.operands, directories with
  | _, _ :: _ :: _ =>
    complain "multiple target directories specified" 1
    return refused
  | [], _ =>
    misuse "missing file operand" 1
    return refused
  | [only], [] =>
    misuse s!"missing destination file operand after {quotedName only}" 1
    return refused
  | sources, [name] =>
    if given.has 'T' then
      complain "cannot combine --target-directory (-t) and --no-target-directory (-T)" 1
      return refused
    match ← directoryFault? name with
    | none => return some (sources, .directory name)
    | some cause =>
      complain s!"target directory {quotedName name}: {cause.wording}" 1
      return refused
  | source :: second :: more, [] =>
    if given.has 'T' then
      match more with
      | extra :: _ =>
        misuse s!"extra operand {quotedName extra}" 1
        return refused
      | [] => return some ([source], .file source second)
    let name := (second :: more).getLast?.getD second
    match ← directoryFault? name, more with
    | none, _ => return some (given.operands.dropLast, .directory name)
    | some _, [] => return some ([source], .file source second)
    | some cause, _ =>
      complain s!"target {quotedName name}: {cause.wording}" 1
      return refused
where
  /-- Why a name leads to no directory, if it does not. -/
  directoryFault? (name : String) : Work (Option OsCause) := do
    match ← entryAt .look name with
    | .ok (_, .directory) => return none
    | .ok _ => return some .notDirectory
    | .error cause => return some cause

/-! ## Plans -/

/-- When links are followed. -/
inductive Following where
  | never
  | operands
  | always
  deriving DecidableEq, Repr

/-- What is made instead of a copy. -/
inductive CopyKind where
  | copy
  | hardLink
  | softLink
  deriving DecidableEq, Repr

/-- How files are copied or moved. -/
structure TransferPlan where
  keeping : Keeping
  asking : Asking
  isVerbose : Bool
  /-- Whether only what is older is replaced. -/
  updates : Bool
  isDeep : Bool := true
  following : Following := .never
  kind : CopyKind := .copy
  /-- Whether what is there is removed first. -/
  removes : Bool := false
  forces : Bool := false
  /-- Whether copies have the modes of what they are copies of. -/
  keepsModes : Bool := false

/-- What one call has dealt with. -/
structure TransferLog where
  /-- The files that were copied. -/
  sources : List Location := []
  /-- The directories that were copied, with their copies. -/
  directories : List (Location × Location) := []
  /-- What was made. -/
  made : List Location := []

/-- The options that `cp` and `mv` share. -/
def transferOptions (plain valued : String) (words : List (String × Char)) : OptionTable :=
  { options ("finuvTbZ" ++ plain) ("tS" ++ valued) ([("force", 'f'), ("interactive", 'i'),
      ("no-clobber", 'n'), ("update", 'u'), ("verbose", 'v'), ("no-target-directory", 'T'),
      ("target-directory", 't'), ("suffix", 'S'), ("backup", backupWord), ("context", 'Z'),
      ("strip-trailing-slashes", '\x19')] ++ words)
    with optional := [backupWord, '\x0b'] }

/-- Whether something at a place is replaced, which may be asked for. -/
def mayReplace (plan : TransferPlan) (target : String) : Work Bool := do
  match plan.asking with
  | .never => return true
  | .refusing => return false
  | .always => confirmed s!"overwrite {quotedName target}"

/-- What lies at a place that something is to be put at. -/
inductive Place where
  | free (location : Location)
  | taken (location : Location) (entry : Entry)
  /-- A link that leads nowhere. -/
  | dangling
  | blocked (cause : OsCause)

/-- What lies at the place of a name; `follows` says that a link stands for what it leads to. -/
def placeOf (name : String) (follows : Bool) : Work Place := do
  match ← follow .entry (trimmedName name) with
  | .error .notFound => return .blocked .notFound
  | .error cause => return .blocked cause
  | .ok (.vacant location) => return .free location
  | .ok (.entry location entry) =>
    let isSlashed := name.endsWith "/"
    match entry with
    | .link _ =>
      if !follows && !isSlashed then return .taken location entry
      match ← entryAt .look name with
      | .ok (location, entry) => return .taken location entry
      | .error .notFound => return .dangling
      | .error cause => return .blocked cause
    | entry =>
      if isSlashed && !entry.isDirectory then return .blocked .notDirectory
      return .taken location entry

/-- Whether a change at a place is to be skipped: because it is not older than the source, or because
it is to stay. -/
def isSpared (plan : TransferPlan) (source target : Location) (name : String) (isDirectory : Bool) :
    Work Bool := do
  if isDirectory then return false
  if plan.updates && !(← isLater source target) then return true
  return !(← mayReplace plan name)

/-- Tells about a file that is put somewhere. -/
def tellTransfer (plan : TransferPlan) (start source target : String) (kept : Option String) :
    Work Unit := do
  if plan.isVerbose then
    let kept := (kept.map fun name => s!" (backup: {quotedName name})").getD ""
    say s!"{start}{quotedName source} -> {quotedName target}{kept}\n"

/-! ## Copying -/

/-- The target of a soft link to a source, or nothing if the link would lead astray. -/
def softTarget? (source target : String) : Option String :=
  if source.startsWith "/" || !(trimmedName target).contains '/' then some source else none

/-- What a file that is no directory is copied as, if that is possible. -/
def copiedEntry (plan : TransferPlan) (source target : String) (entry : Entry) : Option Entry :=
  match plan.kind with
  | .softLink => (softTarget? source target).map fun name => .link (Octets.toText name)
  | _ => some (if entry == .sink then .file (.raw .empty) else entry)

/-- The kind of a file that cannot be made. -/
def madeKind : Entry → String
  | .directory => "directory"
  | .link _ => "symbolic link"
  | _ => "regular file"

/-- Puts a copy of a file that is no directory at a place. -/
def putCopy (plan : TransferPlan) (source target : String) (location : Location) (entry : Entry)
    (spot : Place) (isReplaced : Bool) : Work (Option Location) := do
  match copiedEntry plan source target entry with
  | none =>
    complain s!"{shownName target}: can make relative symbolic links only in current directory" 1
    return none
  | some copy =>
    let disk := (← get).disk
    let own := disk.modeAt location
    let mode := if plan.kind == .softLink then copy.usualMode
      else if plan.keepsModes || plan.kind == .hardLink || !entry.isFile then own
      else disk.masked own
    let refused (cause : OsCause) : Work (Option Location) := do
      complain s!"cannot create {madeKind copy} {quotedName target}: {cause.wording}" 1
      return none
    let isRead := plan.kind == .copy && entry.isFile
    if isRead && !disk.grants .read location then
      complain s!"cannot open {quotedName source} for reading: {OsCause.denied.wording}" 1
      return none
    match spot with
    | .free spot =>
      if target.endsWith "/" then refused .notDirectory
      else match ← changeFault? spot with
        | some cause => refused cause
        | none =>
          place spot copy mode
          return some spot
    | .taken spot .sink => return some spot
    | .taken spot old =>
      let isLink := plan.kind != .copy
      if isLink && !plan.forces && !isReplaced then
        let kind := if plan.kind == .softLink then "symbolic" else "hard"
        complain (s!"cannot create {kind} link {quotedName target} to {quotedName source}: " ++
          "File exists") 1
        return none
      let isKept := !isReplaced && !isLink && old.isFile
      if isKept && !plan.forces && !disk.grants .write spot then refused .denied
      else
        place spot copy
          (if isKept && !plan.keepsModes && disk.grants .write spot then disk.modeAt spot else mode)
        return some spot
    | .dangling =>
      complain s!"not writing through dangling symlink {quotedName target}" 1
      return none
    | .blocked cause => refused cause

/-- Complains about the place of a copy. -/
def refuseCopy (action name : String) (cause : OsCause) (log : TransferLog) : Work TransferLog := do
  complain s!"cannot {action} {quotedName name}: {cause.wording}" 1
  return log

/-- Puts a copy at its place, and tells about it. -/
def finishCopy (plan : TransferPlan) (log : TransferLog) (location : Location) (entry : Entry)
    (source target : String) (spot : Place) (isReplaced : Bool) (kept : Option String) :
    Work TransferLog := do
  match ← putCopy plan source target location entry spot isReplaced with
  | none => return log
  | some made =>
    tellTransfer plan "" source target kept
    return { log with made := made :: log.made }

/-- Copies a file that is no directory. -/
def copyFile (plan : TransferPlan) (isOperand : Bool) (log : TransferLog) (location : Location)
    (entry : Entry) (source target : String) (spot : Place) : Work TransferLog := do
  match spot with
  | .blocked cause =>
    if cause != .notFound then refuseCopy "stat" target cause log
    else
      let _ ← putCopy plan source target location entry spot false
      return log
  | .taken spot old =>
    if spot == location && plan.keeping.kind.isNone then
      complain s!"{quotedName source} and {quotedName target} are the same file" 1
      return log
    if ← isSpared plan location spot target false then return log
    if old.isDirectory then
      complain s!"cannot overwrite directory {quotedName target} with non-directory" 1
      return log
    if isOperand && plan.keeping.kind != some .numbered && log.made.contains spot then
      complain s!"will not overwrite just-created {quotedName target} with {quotedName source}" 1
      return log
    match ← plan.keeping.keep spot with
    | some kept =>
      finishCopy plan log location entry source target (.free spot) true
        (some (besideName target kept))
    | none =>
      let removes := plan.removes || entry.isLink
      if removes then
        clear spot
        if plan.isVerbose then say s!"removed {quotedName target}\n"
      finishCopy plan log location entry source target
        (if removes then .free spot else .taken spot old) removes none
  | spot => finishCopy plan log location entry source target spot false none

/-- Copies an operand, or something below one, that is no directory. -/
def copyEntry (plan : TransferPlan) (isOperand : Bool) (log : TransferLog) (location : Location)
    (entry : Entry) (source target : String) : Work TransferLog := do
  if isOperand && log.sources.contains location && plan.keeping.kind.isNone then
    complain s!"warning: source file {quotedName source} specified more than once" 0
    return log
  let log := if isOperand then { log with sources := location :: log.sources } else log
  let isPlain := entry.isFile || entry == .sink
  let follows := isPlain && plan.kind == .copy && plan.keeping.kind.isNone && !plan.removes
  copyFile plan isOperand log location entry source target (← placeOf target follows)

/-- Copies what a directory holds to its copy, with a function that copies what a name leads to. -/
def copyInside (copy : TransferLog → String → String → Work TransferLog) (location spot : Location)
    (log : TransferLog) (source target : String) : Work TransferLog := do
  let log := { log with directories := (location, spot) :: log.directories }
  if !(← get).disk.grants .read location then
    return ← refuseCopy "access" source .denied log
  let children := ((← get).disk.tree.children location).reverse
  children.foldlM (fun log child =>
    let name := Octets.ofText child
    copy log (insideName source name) (insideName target name)) log

/-- Where the copy of a directory is, which is made if there is none, or what was complained about;
`top` has the names of the operand and of its place, if this is something below them. -/
def directoryCopy (plan : TransferPlan) (top : Option (String × String)) (log : TransferLog)
    (location : Location) (source target : String) : Work (Option Location × TransferLog) := do
  let skipped (log : TransferLog) : Option Location × TransferLog := (none, log)
  let isOperand := top.isNone
  let (topSource, topTarget) := top.getD (source, target)
  let insideItself : Work Unit :=
    complain (s!"cannot copy a directory, {quotedName topSource}, into itself, " ++
      quotedName topTarget) 1
  if log.made.contains location && !isOperand then
    insideItself
    return skipped log
  match ← placeOf target true with
  | .blocked .notFound => return skipped (← refuseCopy "create directory" target .notFound log)
  | .blocked cause => return skipped (← refuseCopy "stat" target cause log)
  | .dangling => return skipped (← refuseCopy "create directory" target .alreadyExists log)
  | .taken spot .directory =>
    if spot == location then
      insideItself
      return skipped log
    if isOperand && log.directories.contains (location, spot) then
      complain s!"warning: source directory {quotedName source} specified more than once" 0
      return skipped log
    return (some spot, log)
  | .taken _ _ =>
    complain (s!"cannot overwrite non-directory {quotedName target} with directory " ++
        quotedName source) 1
    return skipped log
  | .free spot =>
    match ← changeFault? spot with
    | some cause => return skipped (← refuseCopy "create directory" target cause log)
    | none =>
      let mode ← modeAt location
      let disk := (← get).disk
      place spot .directory (if plan.keepsModes then mode else disk.masked mode)
      tellTransfer plan "" source target none
      return (some spot, { log with made := spot :: log.made })

/-- Copies what a name leads to. `top` has the names of the operand and of its place when this is
something below them; `fuel` bounds the depth. -/
def copyFrom (plan : TransferPlan) : Nat → Option (String × String) → TransferLog → String →
    String → Work TransferLog
  | 0, _, log, _, _ => return log
  | fuel + 1, top, log, source, target => do
    let isOperand := top.isNone
    let follows := plan.following == .always || (isOperand && plan.following == .operands)
    match ← entryAt (if follows then .look else .entry) source with
    | .error cause =>
      complain s!"cannot stat {quotedName source}: {cause.wording}" 1
      return log
    | .ok (location, .directory) =>
      if !plan.isDeep then
        complain s!"-r not specified; omitting directory {quotedName source}" 1
        return log
      match ← directoryCopy plan top log location source target with
      | (none, log) => return log
      | (some spot, log) =>
        copyInside (copyFrom plan fuel (some (top.getD (source, target)))) location spot log source
          target
    | .ok (location, entry) => copyEntry plan isOperand log location entry source target

/-- How deep directories may lie in one another. -/
def directoryDepth : Nat := 4096

/-- Makes the directories of a source in a directory, as far as they are missing; tells whether that
was possible. -/
def makeParents (plan : TransferPlan) (directory source : String) : Work Bool := do
  let parts := (Text.fieldsOf '/' (trimmedName source)).dropLast.filter (!·.isEmpty)
  (List.range parts.length).foldlM (fun goesOn count => do
    let name := Text.joined "/" (parts.take (count + 1))
    let target := insideName directory name
    if !goesOn then return false
    match ← entryAt .look name, ← placeOf target true with
    | .error cause, _ =>
      complain s!"failed to get attributes of {quotedName name}: {cause.wording}" 1
      return false
    | _, .free spot =>
      place spot .directory ((← get).disk.masked 0o777)
      if plan.isVerbose then say s!"{name} -> {target}\n"
      return true
    | _, .taken _ .directory => return true
    | _, _ =>
      complain s!"{quotedName target} exists but is not a directory" 1
      return false) true

/-- The plan that the options of `cp` describe. -/
def copyPlan (given : Invocation) (environment : Environment) : Except ChoiceFault TransferPlan := do
  let keeping ← Keeping.ofOptions given.options environment
  let isDeep := ['r', 'R', 'a'].any given.has
  let following := match given.last? ['a', 'd', 'P', 'L', 'H'] with
    | some 'L' => .always
    | some 'H' => .operands
    | some _ => .never
    | none => if isDeep then .never else .always
  return {
    keeping, isDeep, following
    asking := match given.last? ['n', 'i'] with
      | some 'n' => .refusing
      | some _ => .always
      | none => .never
    isVerbose := given.has 'v'
    keepsModes := given.options.any fun (letter, value) => letter == 'p' || letter == 'a' ||
      (letter == '\x0b' && (value.isEmpty || ["mode", "all"].any (Text.fieldsOf ',' value).contains))
    updates := given.has 'u'
    kind := if given.has 's' then .softLink else if given.has 'l' then .hardLink else .copy
    removes := given.has '\x02'
    forces := given.has 'f' }

/-- Copies files. -/
def cp : Work Unit :=
  withOptions (transferOptions "rRapdPLHlsx\x01\x02\x03\x04" "\x05\x06\x07\x08"
    [("recursive", 'r'), ("preserve", '\x0b'), ("archive", 'a'), ("link", 'l'), ("symbolic-link", 's'),
      ("dereference", 'L'), ("no-dereference", 'P'), ("one-file-system", 'x'), ("parents", '\x01'),
      ("remove-destination", '\x02'), ("attributes-only", '\x03'), ("copy-contents", '\x04'),
      ("no-preserve", '\x05'), ("sparse", '\x06'), ("reflink", '\x07')]) 1 fun given => do
    match copyPlan given (← get).call.environment with
    | .error fault => misuse fault.message 1
    | .ok plan =>
      if given.has 's' && given.has 'l' then
        misuse "cannot make both hard and symbolic links" 1
      else if plan.keeping.kind.isSome && plan.asking == .refusing then
        misuse "options --backup and --no-clobber are mutually exclusive" 1
      else match ← destinationOf given with
        | none => return
        | some (_, .file source target) =>
          if given.has '\x01' then misuse "with --parents, the destination must be a directory" 1
          else
            let source := if given.has '\x19' then trimmedName source else source
            let _ ← copyFrom plan directoryDepth none {} source target
        | some (sources, .directory name) =>
          let _ ← sources.foldlM (fun log source => do
            let source := if given.has '\x19' then trimmedName source else source
            if given.has '\x01' then
              if ← makeParents plan name source then
                copyFrom plan directoryDepth none log source (insideName name (trimmedName source))
              else return log
            else
              let last := lastPart source
              let last := if last == ".." then "." else last
              copyFrom plan directoryDepth none log source (insideName name last)) {}

/-! ## Moving -/

/-- Moves what a name leads to. -/
def moveFile (plan : TransferPlan) (log : TransferLog) (source target : String) :
    Work TransferLog := do
  match ← entryAt .entry source with
  | .error cause => refuse log s!"cannot stat {quotedName source}: {cause.wording}"
  | .ok (location, entry) =>
    let between := s!"{quotedName source} to {quotedName target}"
    let last := lastPart source
    if last == "." || last == ".." then
      refuse log s!"cannot move {between}: Device or resource busy"
    else match ← placeOf target false with
    | .blocked .notFound => refuse log s!"cannot move {between}: {OsCause.notFound.wording}"
    | .blocked cause => refuse log s!"cannot stat {quotedName target}: {cause.wording}"
    | .dangling => refuse log s!"cannot move {between}: {OsCause.notDirectory.wording}"
    | .free spot =>
      if location.isSuffixOf spot then
        refuse log (s!"cannot move {quotedName source} to a subdirectory of itself, " ++
          quotedName target)
      else if target.endsWith "/" && !entry.isDirectory then
        refuse log s!"cannot move {between}: {OsCause.notDirectory.wording}"
      else match ← moveFault? location spot with
        | some cause => refuse log s!"cannot move {between}: {cause.wording}"
        | none => move log location spot source target none
    | .taken spot old =>
      let isKept := plan.keeping.kind.isSome
      if spot == location then
        refuse log s!"{quotedName source} and {quotedName target} are the same file"
      else if ← isSpared plan location spot target entry.isDirectory then return log
      else if entry.isDirectory && !old.isDirectory && !isKept then
        refuse log (s!"cannot overwrite non-directory {quotedName target} with directory " ++
          quotedName source)
      else if !entry.isDirectory && !old.isDirectory && plan.keeping.kind != some .numbered &&
          log.made.contains spot then
        refuse log
          s!"will not overwrite just-created {quotedName target} with {quotedName source}"
      else if !entry.isDirectory && old.isDirectory && !isKept then
        refuse log s!"cannot overwrite directory {quotedName target} with non-directory"
      else if location.isSuffixOf spot then
        refuse log (s!"cannot move {quotedName source} to a subdirectory of itself, " ++
          quotedName target)
      else if let some cause := ← moveFault? location spot then
        refuse log s!"cannot move {between}: {cause.wording}"
      else
        let kept ← plan.keeping.keep spot
        if kept.isNone && !((← get).disk.tree.below spot).isEmpty then
          refuse log s!"cannot move {between}: {OsCause.notEmpty.wording}"
        else
          clear spot
          move log location spot source target (kept.map (besideName target))
where
  /-- Complains. -/
  refuse (log : TransferLog) (message : String) : Work TransferLog := do
    complain message 1
    return log
  /-- Moves something to a free place, and tells about it. -/
  move (log : TransferLog) (location spot : Location) (source target : String)
      (kept : Option String) : Work TransferLog := do
    shift location spot
    tellTransfer plan "renamed " source target kept
    return { log with made := spot :: log.made }
  /-- Why something cannot be moved to another place, if it cannot. -/
  moveFault? (location spot : Location) : Work (Option OsCause) := do
    match ← changeFault? location with
    | some cause => return some cause
    | none => changeFault? spot

/-- Moves files. -/
def mv : Work Unit :=
  withOptions (transferOptions "" "" []) 1 fun given => do
    match Keeping.ofOptions given.options (← get).call.environment with
    | .error fault => misuse fault.message 1
    | .ok keeping =>
      let asking : Asking := match given.last? ['n', 'i', 'f'] with
        | some 'n' => .refusing
        | some 'i' => .always
        | _ => .never
      let plan : TransferPlan := {
        keeping, asking, isVerbose := given.has 'v', updates := given.has 'u' }
      if keeping.kind.isSome && asking == .refusing then
        misuse "options --backup and --no-clobber are mutually exclusive" 1
      else
        let named (source : String) := if given.has '\x19' then trimmedName source else source
        match ← destinationOf given with
        | none => return
        | some (_, .file source target) =>
          let _ ← moveFile plan {} (named source) target
        | some (sources, .directory name) =>
          let _ ← sources.foldlM (fun log source =>
            moveFile plan log (named source) (insideName name (lastPart source))) {}

end JavaStubs.Host

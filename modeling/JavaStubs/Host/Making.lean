import JavaStubs.Host.Permissions
import JavaStubs.Value.Moment
import JavaStubs.Host.Places

/-!
Programs that make directories and files: `mkdir` and `touch`. What is there already is a fault for
the one, unless the directories on the way are made as well, and none for the other.

One more program makes files and directories under names that are not used yet. A template has a run of
marks in its last part, which other characters take the places of.
-/
namespace JavaStubs.Host

open Work

/-! ## Directories -/

/-- Makes one directory, and tells why it could not be made. -/
def makeDirectory (isVerbose : Bool) (name : String) : Work (Option OsCause) := do
  match ← follow .entry (trimmedName name) with
  | .ok (.vacant location) =>
    match ← changeFault? location with
    | some cause => return some cause
    | none =>
      place location .directory ((← get).disk.masked 0o777)
      if isVerbose then say s!"{(← get).call.name}: created directory {quotedName name}\n"
      return none
  | .ok (.entry ..) => return some .alreadyExists
  | .error cause => return some cause

/-- The names of the directories on the way to a name, the outermost first. -/
def namesOnTheWay (name : String) : List String :=
  let parts := (Text.fieldsOf '/' (trimmedName name)).zipIdx
  (parts.dropLast.filter fun (part, _) => !part.isEmpty).map fun (_, place) =>
    Text.joined "/" ((parts.take (place + 1)).map Prod.fst)

/-- Makes the directories on the way to a name that are missing, and tells the first that could not
be made or entered. -/
def makeWay (isVerbose : Bool) (name : String) : Work (Option (String × OsCause)) :=
  (namesOnTheWay name).foldlM (fun fault part => do
    if fault.isSome then return fault
    let made ← if lastPart part == ".." then pure none else makeDirectory isVerbose part
    match made, ← entryAt .look part with
    | none, .ok _ => return none
    | some _, .ok (location, .directory) =>
      return if (← get).disk.enters location then none else some (part, .denied)
    | some _, .ok _ => return some (part, .notDirectory)
    | some cause, .error .notFound => return some (part, cause)
    | _, .error cause => return some (part, cause)) none

/-- Makes directories. -/
def mkdir : Work Unit :=
  withOptions { options "pvZ\x01" "m" [("parents", 'p'), ("verbose", 'v'), ("mode", 'm'),
      ("context", '\x01')] with optional := ['\x01'] } 1 fun given => do
    let isVerbose := given.has 'v'
    if given.operands.isEmpty then misuse "missing operand" 1
    else match given.value? 'm' with
      | some mode =>
        match modeSteps? mode with
        | none => complain s!"invalid mode {quotedName mode}" 1
        | some steps => given.operands.forM (make given steps isVerbose)
      | none => given.operands.forM (make given [] isVerbose)
where
  /-- Complains about a directory that could not be made. -/
  refuse (name : String) (cause : OsCause) : Work Unit :=
    complain s!"cannot create directory {quotedName name}: {cause.wording}" 1
  /-- Makes a directory, with those on the way if they are asked for. -/
  make (given : Invocation) (steps : List ModeStep) (isVerbose : Bool) (name : String) :
      Work Unit := do
    let fault ← if given.has 'p' then makeWay isVerbose name else pure none
    match fault with
    | some (part, cause) => refuse part cause
    | none =>
      match ← makeDirectory isVerbose name with
      | none =>
        if !steps.isEmpty then
          if let .ok (location, _) := ← entryAt .entry (trimmedName name) then
            modify fun working =>
              let disk := working.disk
              { working with disk :=
                disk.withMode location (modeAfter steps disk.mask true 0o777) }
      | some cause =>
        let isThere := cause == .alreadyExists && given.has 'p'
        if !(isThere && (← isDirectoryName name)) then refuse name cause

/-! ## Files -/

/-- Whether a text is a time in digits: the month, the day, the hour and the minute, a year in front
if there is one, and seconds behind a dot. -/
def isDigitTime (text : String) : Bool :=
  let digits := text.toList.takeWhile (· != '.')
  let seconds := text.toList.drop digits.length
  let number (from_ count : Nat) : Nat :=
    ((String.ofList ((digits.drop from_).take count)).toNat?).getD 0
  let start := digits.length - 8
  let year := if digits.length == 12 then number 0 4
    else if digits.length == 10 then
      (if number 0 2 < 69 then 2000 else 1900) + number 0 2
    else 2000
  let month := number start 2
  let day := number (start + 2) 2
  let secondsFit := match seconds with
    | [] => true
    | ['.', a, b] => a.isDigit && b.isDigit && (a < '6' || (a == '6' && b == '0'))
    | _ => false
  [8, 10, 12].contains digits.length && digits.all Char.isDigit && secondsFit &&
    1 ≤ month && month ≤ 12 && 1 ≤ day && day ≤ Day.inMonth year month &&
    number (start + 4) 2 < 24 && number (start + 6) 2 < 60

/-- Makes a file that is not there, or sets when it was changed. -/
def touchFile (given : Invocation) (name : String) : Work Unit := do
  let refused (action : String) (cause : OsCause) : Work Unit :=
    complain s!"{action} {quotedName name}: {cause.wording}" 1
  if name == "-" then return
  let found ← entryAt (if given.has 'h' then .entry else .look) name
  let stays := given.has 'c' || given.has 'h' || name.endsWith "/"
  match found with
  | .ok _ => return
  | .error cause =>
    if !stays then
      match ← writeText name "" true with
      | .ok _ => return
      | .error cause => refused "cannot touch" cause
    else if !(given.has 'c' && cause == .notFound) then refused "setting times of" cause

/-- Makes files that are not there. -/
def touch : Work Unit :=
  withOptions (options "acfhm" "drt\x01" [("time", '\x01'), ("no-create", 'c'), ("date", 'd'),
      ("reference", 'r'), ("no-dereference", 'h')]) 1 fun given => do
    let kinds := [("atime", 0), ("access", 0), ("use", 0), ("mtime", 1), ("modify", 1)]
    let faults := given.options.filterMap fun (letter, word) =>
      if letter != '\x01' then none
      else match chosenBy "--time" kinds word with
        | .error fault => some fault
        | .ok _ => none
    let badTimes := given.options.filterMap fun (letter, word) =>
      if letter == 't' && !isDigitTime word then some word else none
    let sources := (if given.has 't' then 1 else 0) +
      (if given.has 'd' || given.has 'r' then 1 else 0)
    match faults, badTimes with
    | fault :: _, _ => misuse fault.message 1
    | _, word :: _ => complain s!"invalid date format {quotedName word}" 1
    | [], [] =>
      let fault? : Option OsCause ← match given.value? 'r' with
        | none => pure none
        | some name =>
          match ← entryAt (if given.has 'h' then .entry else .look) name with
          | .ok _ => pure none
          | .error cause => pure (some cause)
      match fault? with
      | some cause =>
        let name := (given.value? 'r').getD ""
        complain s!"failed to get attributes of {quotedName name}: {cause.wording}" 1
      | none =>
        if 1 < sources then misuse "cannot specify times from more than one source" 1
        else if given.operands.isEmpty then misuse "missing file operand" 1
        else given.operands.forM (touchFile given)

end JavaStubs.Host

namespace JavaStubs.Host

open Work

/-- A template, parted at the end of its last run of marks. -/
structure Template where
  /-- What stands in front of the marks. -/
  front : String
  /-- The number of marks. -/
  marks : Nat
  back : String

/-- The template that a text is, where an ending may be asked for apart from it. -/
def Template.ofText (text : String) (ending : Option String) : Template :=
  let chars := text.toList
  let back := match ending with
    | some _ => []
    | none => (chars.reverse.takeWhile (· != 'X')).reverse
  let front := chars.take (chars.length - back.length)
  let kept := Text.dropTrailing (· == 'X') front
  ⟨String.ofList kept, front.length - kept.length, ending.getD (String.ofList back)⟩

/-- The name that a number gives a template. -/
def Template.name (template : Template) (number : Nat) : String :=
  let letters := "abcdefghijklmnopqrstuvwxyz".toList
  let digits := (List.range template.marks).map fun place =>
    letters.getD (number / Nat.pow 26 place % 26) 'a'
  template.front ++ String.ofList digits ++ template.back

/-- Makes something under the first name that is not used, from a number on; tells the name, or why
there is none. -/
def makeTemporary (isDry isDirectory : Bool) (template : Template) :
    Nat → Nat → Work (Except OsCause String)
  | 0, _ => return .error .alreadyExists
  | fuel + 1, number => do
    let name := template.name number
    match ← follow .entry name with
    | .ok (.entry ..) => makeTemporary isDry isDirectory template fuel (number + 1)
    | .ok (.vacant location) =>
      if isDry then return .ok name
      match ← changeFault? location with
      | some cause => return .error cause
      | none =>
        let mask := (← get).disk
        if isDirectory then place location .directory (mask.masked 0o700)
        else place location (.file (.raw .empty)) (mask.masked 0o600)
        return .ok name
    | .error cause => if isDry && cause == .notFound then return .ok name else return .error cause

/-- Makes a file or a directory under a new name. -/
def mktemp : Work Unit :=
  withOptions { options "dqutV\x02" "p\x01" [("directory", 'd'), ("quiet", 'q'), ("dry-run", 'u'),
      ("suffix", '\x01'), ("tmpdir", '\x02'), ("version", 'V')] with optional := ['\x02'] } 1
    fun given => do
      let environment := (← get).call.environment
      let isQuiet := given.has 'q'
      let refuse (message : String) : Work Unit :=
        if isQuiet then fail 1 else complain message 1
      let text := given.operands.head?.getD "tmp.XXXXXXXXXX"
      let ending := given.value? '\x01'
      let template := Template.ofText text ending
      let isPlaced := given.operands.isEmpty || given.has 't' || given.has 'p' || given.has '\x02'
      let asked := (given.options.filter fun (letter, _) => letter == 'p' || letter == '\x02')
        |>.getLast?.map Prod.snd |>.filter (!·.isEmpty)
      let found := (environment.lookup "TMPDIR").filter (!·.isEmpty)
      let directory :=
        if given.has 't' then (found.orElse fun _ => asked).getD "/tmp"
        else (asked.orElse fun _ => found).getD "/tmp"
      let whole := text ++ ending.getD ""
      if 1 < given.operands.length then misuse "too many templates" 1
      else if ending.isSome && !text.endsWith "X" then
        refuse s!"with --suffix, template {quotedName text} must end in X"
      else if template.marks < 3 then refuse s!"too few X's in template {quotedName whole}"
      else if template.back.contains '/' then
        refuse s!"invalid suffix {quotedName template.back}, contains directory separator"
      else if given.has 't' && text.contains '/' then
        refuse s!"invalid template, {quotedName whole}, contains directory separator"
      else if isPlaced && text.startsWith "/" then
        refuse s!"invalid template, {quotedName whole}; with --tmpdir, it may not be absolute"
      else
        let template := if isPlaced then
          { template with front := insideName directory template.front } else template
        let shown := if isPlaced then insideName directory whole else whole
        match ← makeTemporary (given.has 'u') (given.has 'd') template 1000 1 with
        | .ok name => say s!"{name}\n"
        | .error cause =>
          let kind := if given.has 'd' then "directory" else "file"
          refuse s!"failed to create {kind} via template {quotedName shown}: {cause.wording}"

end JavaStubs.Host

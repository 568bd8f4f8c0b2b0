import JavaStubs.Host.NameStyle
import JavaStubs.Host.Places
import JavaStubs.Host.Regex
import JavaStubs.Host.DifferenceStyles

namespace JavaStubs.Host

open Work

/-- A way to compare files and directories. -/
structure FileComparison where
  view : DifferenceView := {}
  style : DifferenceStyle := .normal
  labels : List String := []
  /-- Whether just the names of files that differ are told. -/
  brief : Bool := false
  /-- Whether files that are the same are told, too. -/
  tellsSame : Bool := false
  descends : Bool := false
  /-- Whether a missing file is an empty one: any, or the first one of two. -/
  fillsAll : Bool := false
  fillsFirst : Bool := false
  follows : Bool := true
  asText : Bool := false
  everything : Bool := false
  horizon : Nat := 0
  dropsReturns : Bool := false
  excluded : List (List Glob) := []
  /-- Where the names of the outer directories begin to count. -/
  start : Option String := none
  foldsCase : Bool := false
  /-- The options as they are shown above the differences of files in directories. -/
  shownOptions : String := ""

/-- What a name of a comparison stands for. -/
inductive ComparedFile where
  /-- A file that counts as an empty one. -/
  | absent
  | input
  | found (location : Location) (entry : Entry)
  | failed (cause : OsCause)

namespace ComparedFile

def isDirectory : ComparedFile → Bool
  | .found _ .directory => true
  | _ => false

/-- Whether something is compared that is there. -/
def isThere : ComparedFile → Bool
  | .found _ _ => true
  | .input => true
  | _ => false

def isAbsent : ComparedFile → Bool
  | .absent => true
  | _ => false

/-- Whether a symbolic link itself is compared. -/
def isLink : ComparedFile → Bool
  | .found _ (.link _) => true
  | _ => false

/-- Whether something is compared that only gives or takes octets. -/
def isDevice : ComparedFile → Bool
  | .found _ .sink => true
  | _ => false

def kind : ComparedFile → String
  | .found _ .directory => "directory"
  | .found _ (.link _) => "symbolic link"
  | .found _ .sink => "character special file"
  | .found _ (.file content) => if content.toBytes.isEmpty then "regular empty file" else "regular file"
  | _ => "regular file"

end ComparedFile

/-- A name with quotes of a program text if there is something in it that needs them. -/
def headedName (name : String) : String :=
  let isSpecial (c : Char) : Bool := isControl c || c == ' ' || c == '"' || c == '\\'
  if name.toList.any isSpecial then "\"" ++ NameStyle.withEscapes ['"'] name ++ "\"" else name

namespace FileComparison

/-- The title of a file in messages. -/
def title (job : FileComparison) (place : Nat) (name : String) : String := (job.labels[place]?).getD name

/-- The line above differences with the name of a file. -/
def titleLine (job : FileComparison) (mark : String) (place : Nat) (name : String) : String :=
  match job.labels[place]? with
  | some label => s!"{mark} {label}\n"
  | none =>
    let time := if job.style = .context then "Thu Jan  1 00:00:00 1970"
      else "1970-01-01 00:00:00.000000000 +0000"
    s!"{mark} {headedName name}\t{time}\n"

/-- What stands above the differences of two files. -/
def head (job : FileComparison) (isInner : Bool) (first second : String) : String :=
  let call := if isInner
    then "diff" ++ job.shownOptions ++ " " ++ headedName first ++ " " ++ headedName second ++ "\n"
    else ""
  call ++ match job.style with
    | .context => job.titleLine "***" 0 first ++ job.titleLine "---" 1 second
    | .unified => job.titleLine "---" 0 first ++ job.titleLine "+++" 1 second
    | _ => ""

/-- The text of the differences of two texts, without what stands above. -/
def body (job : FileComparison) (first second : ComparedText) (parts : List Alignment.Part) :
    String :=
  let view := job.view
  let each (tell : Hunk → String) : String :=
    String.join ((view.hunks false first second parts).map tell)
  let together (tell : Hunk → String) : String :=
    String.join ((view.hunks true first second parts).map tell)
  match job.style with
  | .normal => each (view.normalHunk first second)
  | .context => together (view.contextHunk first second)
  | .unified => together (view.unifiedHunk first second)
  | .editor => String.join ((view.hunks false first second parts).reverse.map (view.editorHunk second))
  | .forward => each (view.forwardHunk second)
  | .counted => each (view.countedHunk second)
  | .columns => SideBySide.page view first second parts

/-- Whether files without differences have nothing told of them. -/
def isSilent (job : FileComparison) : Bool := job.style ≠ .columns || job.view.onlyDifferent

/-- Compares two texts, and tells the result. -/
def compareTexts (job : FileComparison) (isInner : Bool) (names : String × String)
    (first second : String) : Work Nat := do
  let isBinary (text : String) : Bool := (text.toList.take 4096).contains '\x00'
  if !job.asText && (isBinary first || isBinary second) then
    if first == second then return 0
    let start := if job.brief then "Files" else "Binary files"
    say s!"{start} {job.title 0 names.1} and {job.title 1 names.2} differ\n"
    return 1
  let read (text : String) : ComparedText :=
    let text := if job.dropsReturns then text.replace "\r\n" "\n" else text
    let found := ComparedText.ofText text
    { found with isClosed := found.isClosed || !job.style.tellsEnds }
  let horizon := max job.horizon
    (if job.style = .context || job.style = .unified then job.view.context else 0)
  let (left, right) := (read first, read second)
  let parts := job.view.rule.differences job.everything horizon left right
  let differs := parts.any (!job.view.isTrivial left right ·)
  if job.brief then
    if differs then say s!"Files {job.title 0 names.1} and {job.title 1 names.2} differ\n"
    return if differs then 1 else 0
  if differs || !job.isSilent then
    say (job.head isInner names.1 names.2 ++ job.body left right parts)
  let unclosed := [(0, names.1, first), (1, names.2, second)].filter fun (_, _, text) =>
    !job.style.tellsEnds && !(ComparedText.ofText text).isClosed
  let call := (← get).call
  unclosed.forM fun (place, name, _) =>
    sayError s!"{call.name}: {job.title place name}: No newline at end of file\n\n"
  return if !unclosed.isEmpty then 2 else if differs then 1 else 0

def lookUp (job : FileComparison) (name : String) : Work ComparedFile := do
  if name == "-" then
    return if (← get).call.origin = .directory then .found [] .directory else .input
  match ← entryAt (if job.follows then .look else .entry) name with
  | .ok (location, entry) => return .found location entry
  | .error cause => return .failed cause

/-- Complains about a name; the result is that of a failure. -/
def trouble (name : String) (cause : OsCause) : Work Nat := do
  sayError s!"{(← get).call.name}: {name}: {cause.wording}\n"
  return 2

/-- The text of a file that is compared. -/
def textOfFile (name : String) : ComparedFile → Work (Except OsCause String)
  | .absent => return .ok ""
  | .input => takeInput
  | .failed cause => return .error cause
  | .found _ _ => textOf name

/-- The names in a directory that are compared, in order. -/
def namesIn (job : FileComparison) (isOuter : Bool) (file : ComparedFile) : Work (List String) := do
  match file with
  | .found location .directory =>
    let names := ((← get).disk.tree.children location).map Octets.ofText
    let kept := names.filter fun name =>
      !job.excluded.any (Pattern.matches_ · name.toList) &&
        (!isOuter || job.start.all (· ≤ name))
    return kept.mergeSort
  | _ => return []

/-- Two lists of names in order, those that are the same put together; `fuel` is at least the number
of all. -/
def paired (same : String → String → Bool) :
    Nat → List String → List String → List (Option String × Option String)
  | fuel + 1, a :: as, b :: bs =>
    if same a b then (some a, some b) :: paired same fuel as bs
    else if a < b then (some a, none) :: paired same fuel as (b :: bs)
    else (none, some b) :: paired same fuel (a :: as) bs
  | _, as, bs => as.map (some ·, none) ++ bs.map (none, some ·)

/-- Compares two files that are no directories. -/
def compareFiles (job : FileComparison) (isInner : Bool) (names : String × String)
    (first second : ComparedFile) : Work Nat := do
  match first, second with
  | .found _ (.link one), .found _ (.link two) =>
    if one == two then return 0
    say s!"Symbolic links {names.1} and {names.2} differ\n"
    return 1
  | first, second =>
    if (first.isLink && second.isThere) || (second.isLink && first.isThere) then
      say s!"File {names.1} is a {first.kind} while file {names.2} is a {second.kind}\n"
      return 1
    let one ← textOfFile names.1 first
    let two ← textOfFile names.2 second
    match one, two with
    | .ok one, .ok two => job.compareTexts isInner names one two
    | one, two =>
      let told (name : String) (text : Except OsCause String) : Work Unit := do
        if let .error cause := text then
          let _ ← trouble name cause
      told names.1 one
      told names.2 two
      return 2

/-- Compares what two names stand for; `outer` are the names of the directories that they are in, and one
of the names may be missing there. `fuel` bounds the depth. -/
def compare (job : FileComparison) :
    Nat → Option (String × String) → Option String → Option String → Work Nat
  | 0, _, _, _ => return 0
  | fuel + 1, outer, firstName, secondName => do
    let inDirectories := outer.getD ("", "")
    let missing := firstName.isNone || secondName.isNone
    let fills := job.fillsAll || (job.fillsFirst && firstName.isNone)
    let name := (firstName.or secondName).getD ""
    if missing && !fills then
      say s!"Only in {if firstName.isNone then inDirectories.2 else inDirectories.1}: {name}\n"
      return 1
    let full (directory : String) (own : Option String) : String :=
      if outer.isSome then insideName directory (own.getD name) else own.getD name
    let names := (full inDirectories.1 firstName, full inDirectories.2 secondName)
    let first ← if firstName.isNone then pure ComparedFile.absent else job.lookUp names.1
    let second ← if secondName.isNone then pure ComparedFile.absent else job.lookUp names.2
    let filled (fills : Bool) (file other : ComparedFile) : ComparedFile :=
      match file with
      | .failed .notFound => if fills && outer.isNone && other.isThere then .absent else file
      | file => file
    let files := (filled (job.fillsAll || job.fillsFirst) first second,
      filled job.fillsAll second first)
    let status ← match files with
      | (.failed cause, .failed other) =>
        let _ ← trouble names.1 cause
        trouble names.2 other
      | (.failed cause, _) => trouble names.1 cause
      | (_, .failed cause) => trouble names.2 cause
      | (first, second) =>
        if outer.isNone && first.isDirectory != second.isDirectory &&
            !first.isAbsent && !second.isAbsent then inDirectory names first second
        else settle job fuel outer names name first second
    return status
where
  /-- Compares a file with that of its name in a directory. -/
  inDirectory (names : String × String) (first second : ComparedFile) : Work Nat := do
    let plain := if first.isDirectory then names.2 else names.1
    if plain == "-" then
      sayError s!"{(← get).call.name}: cannot compare '-' to a directory\n"
      return 2
    let directory := if first.isDirectory then names.1 else names.2
    let inner := insideName directory (lastPart plain)
    match ← job.lookUp inner with
    | .failed cause => trouble inner cause
    | found =>
      let (names, first, second) := if first.isDirectory
        then ((inner, names.2), found, second) else ((names.1, inner), first, found)
      if found.isDirectory then
        say s!"File {names.1} is a {first.kind} while file {names.2} is a {second.kind}\n"
        return 1
      finish job names first second (← plainly job false names first second)
  /-- Tells that two files are the same, if that is asked for. -/
  finish (job : FileComparison) (names : String × String) (first second : ComparedFile)
      (status : Nat) : Work Nat := do
    if status = 0 && job.tellsSame && !first.isDirectory && !second.isDirectory then
      say s!"Files {job.title 0 names.1} and {job.title 1 names.2} are identical\n"
    return status
  /-- Compares two files, unless they are one. -/
  plainly (job : FileComparison) (isInner : Bool) (names : String × String)
      (first second : ComparedFile) : Work Nat := do
    let isSame : Bool := match first, second with
      | .found one _, .found two _ => one == two
      | .input, .input => true
      | .absent, .absent => true
      | _, _ => false
    if isSame && job.isSilent then return 0
    job.compareFiles isInner names first second
  /-- Compares two files or two directories. -/
  settle (job : FileComparison) (fuel : Nat) (outer : Option (String × String))
      (names : String × String) (name : String) (first second : ComparedFile) : Work Nat := do
    let inDirectories := outer.getD ("", "")
    let isSame : Bool := match first, second with
      | .found one _, .found two _ => one == two
      | _, _ => false
    if first.isDirectory && second.isDirectory then
      if isSame then return 0
      if outer.isSome && !job.descends then
        say s!"Common subdirectories: {names.1} and {names.2}\n"
        return 0
      inner job fuel outer names first second
    else if first.isDirectory || second.isDirectory ||
        (outer.isSome && (first.isDevice || second.isDevice)) then
      if first.isAbsent || second.isAbsent then
        if job.descends && (job.fillsAll || first.isAbsent) then
          inner job fuel outer names first second
        else
          say s!"Only in {if first.isAbsent then inDirectories.2 else inDirectories.1}: {name}\n"
          return 1
      else
        say s!"File {names.1} is a {first.kind} while file {names.2} is a {second.kind}\n"
        return 1
    else finish job names first second (← plainly job outer.isSome names first second)
  /-- Compares what is in two directories. -/
  inner (job : FileComparison) (fuel : Nat) (outer : Option (String × String))
      (names : String × String) (first second : ComparedFile) : Work Nat := do
    let left ← job.namesIn outer.isNone first
    let right ← job.namesIn outer.isNone second
    let same (a b : String) : Bool :=
      if job.foldsCase then a.toLower == b.toLower else a == b
    let found ← (paired same (left.length + right.length) left right).mapM fun (a, b) =>
      compare job fuel (some names) a b
    return found.foldl max 0

end FileComparison

/-! ## Options -/

/-- The letters that stand for words alone: those without a value, with one, and with one that may be
left out. -/
def comparisonOptions : OptionTable :=
  { options "0123456789abBcdeEfhHiNnpPqrstTuwyZ\x01\x02\x03\x04\x05\x06\x07"
      "CFILSUWxX\x10\x11\x12\x13"
      [("brief", 'q'), ("color", '\x17'), ("colour", '\x17'), ("context", '\x15'), ("ed", 'e'),
        ("exclude", 'x'), ("exclude-from", 'X'), ("expand-tabs", 't'), ("forward-ed", 'f'),
        ("from-file", '\x10'), ("horizon-lines", '\x11'), ("ignore-all-space", 'w'),
        ("ignore-blank-lines", 'B'), ("ignore-case", 'i'), ("ignore-file-name-case", '\x01'),
        ("ignore-matching-lines", 'I'), ("ignore-space-change", 'b'), ("ignore-tab-expansion", 'E'),
        ("ignore-trailing-space", 'Z'), ("initial-tab", 'T'), ("label", 'L'), ("left-column", '\x02'),
        ("minimal", 'd'), ("new-file", 'N'), ("no-dereference", '\x03'), ("normal", '\x04'),
        ("rcs", 'n'), ("recursive", 'r'), ("report-identical-files", 's'), ("show-c-function", 'p'),
        ("show-function-line", 'F'), ("side-by-side", 'y'), ("speed-large-files", 'H'),
        ("starting-file", 'S'), ("strip-trailing-cr", '\x05'), ("suppress-blank-empty", '\x06'),
        ("suppress-common-lines", '\x07'), ("tabsize", '\x12'), ("text", 'a'), ("to-file", '\x13'),
        ("unidirectional-new-file", 'P'), ("unified", '\x16'), ("width", 'W')] with
    optional := ['\x15', '\x16', '\x17'] }

/-- Why a comparison is refused: for a reason alone, or with a word about the program's help. -/
inductive ComparisonFault where
  | reason (message : String)
  | misused (message : String)

/-- What options have said so far. -/
structure ComparisonPlan where
  job : FileComparison := {}
  style : Option DifferenceStyle := none
  /-- The number of lines around differences, if there was one. -/
  context : Option Nat := none
  /-- The digits among the letters; they count if there is no other number, or a smaller one. -/
  digits : List Char := []
  isNumbered : Bool := false
  ignored : List Regex := []
  headings : List Regex := []
  excluded : List String := []

namespace ComparisonPlan

/-- A plan with a style; there may be only one. -/
def withStyle (plan : ComparisonPlan) (style : DifferenceStyle) :
    Except ComparisonFault ComparisonPlan :=
  if plan.style.all (· == style) then .ok { plan with style := some style }
  else .error (.misused "conflicting output style options")

/-- A plan with at least a number of lines around differences. -/
def withContext (plan : ComparisonPlan) (count : Nat) : ComparisonPlan :=
  { plan with context := some (max count (plan.context.getD 0)) }

def viewed (plan : ComparisonPlan) (change : DifferenceView → DifferenceView) : ComparisonPlan :=
  { plan with job := { plan.job with view := change plan.job.view } }

def ruled (plan : ComparisonPlan) (change : LineRule → LineRule) : ComparisonPlan :=
  plan.viewed fun view => { view with rule := change view.rule }

/-- A plan in which some white space does not count. -/
def blanked (plan : ComparisonPlan) (blanks : BlankRule) : ComparisonPlan :=
  plan.ruled fun rule =>
    let found := match rule.blanks, blanks with
      | .nothing, _ => .nothing
      | _, .nothing => .nothing
      | .places, _ => .places
      | _, .places => .places
      | .exact a b, .exact c d => .exact (a || c) (b || d)
    { rule with blanks := found }

/-- The number that a text spells; nothing spells zero. -/
def numberOf (text : String) : Option Nat := if text.isEmpty then some 0 else text.toNat?

/-- The number that a text spells, which is not zero. -/
def sizeOf (what text : String) : Except ComparisonFault Nat :=
  match numberOf text with
  | some (n + 1) => .ok (n + 1)
  | _ => .error (.misused s!"invalid {what} '{text}'")

def expressionOf (text : String) : Except ComparisonFault Regex :=
  match Regex.read ⟨false, true⟩ text with
  | .ok regex => .ok regex
  | .error fault =>
    let message := if fault matches .openSet then "Invalid regular expression" else fault.message
    .error (.reason s!"{text}: {message}")

/-- A plan with an option that asks for lines around differences. -/
def withLines (plan : ComparisonPlan) (style : DifferenceStyle) (text : String) :
    Except ComparisonFault ComparisonPlan := do
  match numberOf text with
  | none => throw (.misused s!"invalid context length '{text}'")
  | some count => return { (← plan.withStyle style).withContext count with isNumbered := true }

/-- A plan with one more option; the files that options name are read before. -/
def with_ (plan : ComparisonPlan) : Char × String → Except ComparisonFault ComparisonPlan
  | ('a', _) => .ok { plan with job := { plan.job with asText := true } }
  | ('b', _) => .ok (plan.blanked .places)
  | ('B', _) => .ok (plan.viewed fun view => { view with ignoreEmpty := true })
  | ('c', _) => (plan.withContext 3).withStyle .context
  | ('C', text) => plan.withLines .context text
  | ('\x15', text) => plan.withLines .context (if text.isEmpty then "3" else text)
  | ('u', _) => (plan.withContext 3).withStyle .unified
  | ('U', text) => plan.withLines .unified text
  | ('\x16', text) => plan.withLines .unified (if text.isEmpty then "3" else text)
  | ('d', _) => .ok { plan with job := { plan.job with everything := true } }
  | ('e', _) => plan.withStyle .editor
  | ('E', _) => .ok (plan.blanked (.exact true false))
  | ('f', _) => plan.withStyle .forward
  | ('F', text) => return { plan with headings := plan.headings ++ [← expressionOf text] }
  | ('i', _) => .ok (plan.ruled fun rule => { rule with ignoreCase := true })
  | ('I', text) => return { plan with ignored := plan.ignored ++ [← expressionOf text] }
  | ('L', text) =>
    if 2 ≤ plan.job.labels.length then .error (.reason "too many file label options")
    else .ok { plan with job := { plan.job with labels := plan.job.labels ++ [text] } }
  | ('n', _) => plan.withStyle .counted
  | ('N', _) => .ok { plan with job := { plan.job with fillsAll := true } }
  | ('p', _) => return { plan with headings := plan.headings ++ [← expressionOf "^[[:alpha:]$_]"] }
  | ('P', _) => .ok { plan with job := { plan.job with fillsFirst := true } }
  | ('q', _) => .ok { plan with job := { plan.job with brief := true } }
  | ('r', _) => .ok { plan with job := { plan.job with descends := true } }
  | ('s', _) => .ok { plan with job := { plan.job with tellsSame := true } }
  | ('S', text) => .ok { plan with job := { plan.job with start := some text } }
  | ('t', _) => .ok (plan.viewed fun view => { view with expandTabs := true })
  | ('T', _) => .ok (plan.viewed fun view => { view with tabFirst := true })
  | ('w', _) => .ok (plan.blanked .nothing)
  | ('W', text) => do
    let width ← sizeOf "width" text
    return plan.viewed fun view => { view with width := width }
  | ('x', text) => .ok { plan with excluded := plan.excluded ++ [text] }
  | ('y', _) => plan.withStyle .columns
  | ('Z', _) => .ok (plan.blanked (.exact false true))
  | ('\x01', _) => .ok { plan with job := { plan.job with foldsCase := true } }
  | ('\x02', _) => .ok (plan.viewed fun view => { view with leftOnly := true })
  | ('\x03', _) => .ok { plan with job := { plan.job with follows := false } }
  | ('\x04', _) => plan.withStyle .normal
  | ('\x05', _) => .ok { plan with job := { plan.job with dropsReturns := true } }
  | ('\x06', _) => .ok (plan.viewed fun view => { view with bareEmpty := true })
  | ('\x07', _) => .ok (plan.viewed fun view => { view with onlyDifferent := true })
  | ('\x11', text) =>
    match numberOf text with
    | none => .error (.misused s!"invalid horizon length '{text}'")
    | some count =>
      .ok { plan with job := { plan.job with horizon := max count plan.job.horizon } }
  | ('\x12', text) => do
    let size ← sizeOf "tabsize" text
    return plan.ruled fun rule => { rule with tabSize := size }
  | ('\x17', text) =>
    if ["", "never", "auto", "always"].contains text then .ok plan
    else .error (.misused s!"invalid color '{text}'")
  | (letter, _) =>
    if letter.isDigit then .ok { plan with digits := plan.digits ++ [letter] } else .ok plan

/-- One expression for several: what fits one of them fits it. -/
def choiceOf : List Regex → Option Regex
  | [] => none
  | first :: rest => some (rest.foldl .choice first)

/-- The comparison that a plan describes. -/
def comparison (plan : ComparisonPlan) (shownOptions : String) : FileComparison :=
  let found := plan.context.getD 0
  let context := match (String.ofList plan.digits).toNat? with
    | none => found
    | some n => if found < n || !plan.isNumbered then n else found
  let job := (plan.viewed fun view =>
    { view with context, heading := choiceOf plan.headings, ignored := choiceOf plan.ignored }).job
  { job with
    style := plan.style.getD .normal
    excluded := plan.excluded.map Pattern.ofText
    shownOptions }

end ComparisonPlan

/-- The arguments in front of the operands, as they are shown; those behind them come in front, too. -/
def shownArguments (arguments operands : List String) : String :=
  let (_, kept) := arguments.foldr (fun argument (left, kept) =>
    if left.head? = some argument then (left.drop 1, kept) else (left, argument :: kept))
    (operands.reverse, ([] : List String))
  String.join (kept.map fun argument => " " ++ (NameStyle.shell false false).show_ [] argument)

/-- Tells in which lines files differ. -/
def diff : Work Unit := do
  let call := (← get).call
  match comparisonOptions.read call.arguments with
  | .error fault => misuseNamed fault.message 2
  | .ok given =>
    let lists ← (given.options.filter (·.1 == 'X')).mapM fun (_, name) => do
      match ← textOf name with
      | .ok text => return .ok (linesOf text)
      | .error cause => return Except.error (ComparisonFault.reason s!"{name}: {cause.wording}")
    let planned : Except ComparisonFault ComparisonPlan := do
      let plan ← given.options.foldlM ComparisonPlan.with_ {}
      let lists ← lists.mapM id
      return { plan with excluded := plan.excluded ++ lists.flatten }
    match planned with
    | .error (.reason message) => complain message 2
    | .error (.misused message) => misuseNamed message 2
    | .ok plan =>
      let job := plan.comparison (shownArguments call.arguments given.operands)
      let compare (first second : String) : Work Nat :=
        job.compare 256 none (some first) (some second)
      match given.value? '\x10', given.value? '\x13', given.operands with
      | some _, some _, _ => complain "--from-file and --to-file both specified" 2
      | some first, none, names =>
        fail ((← names.mapM (compare first)).foldl max 0 : Nat)
      | none, some second, names =>
        fail ((← names.mapM (compare · second)).foldl max 0 : Nat)
      | none, none, [first, second] => fail (← compare first second : Nat)
      | none, none, _ :: _ :: extra :: _ => misuseNamed s!"extra operand '{extra}'" 2
      | none, none, [only] => misuseNamed s!"missing operand after '{only}'" 2
      | none, none, [] =>
        misuseNamed s!"missing operand after '{call.arguments.getLast?.getD call.name}'" 2

end JavaStubs.Host

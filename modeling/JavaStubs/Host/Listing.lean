import JavaStubs.Host.NameStyle
import JavaStubs.Host.SortTools
import JavaStubs.Host.Pattern
import JavaStubs.Host.Places

/-!
The program that lists files and directories, `ls`. A plan says what is shown, in which order and in
which shape. Files among the operands come first, then one directory after another; a directory
inside another one is listed right behind it.
-/
namespace JavaStubs.Host

open Work

/-! ## Plans -/

/-- The shape of a list. -/
inductive ListShape where
  | lines
  | long
  | joined
  | downwards
  | across
  deriving DecidableEq, Repr

/-- The order of a list. -/
inductive ListOrder where
  | byName
  | none
  | time
  | size
  | extension
  | version
  | width
  deriving DecidableEq, Repr

/-- The marks that tell kinds of files. -/
inductive KindMarks where
  | none
  | slash
  | types
  | all
  deriving DecidableEq, Repr

/-- Which links stand for what they lead to. -/
inductive LinkView where
  | none
  | directories
  | operands
  | all
  deriving DecidableEq, Repr

/-- Which names that begin with a dot are shown. -/
inductive DotView where
  | none
  | almostAll
  | all
  deriving DecidableEq, Repr

/-- How files are listed. -/
structure ListPlan where
  shape : ListShape
  order : ListOrder
  marks : KindMarks
  links : LinkView
  dots : DotView
  style : NameStyle
  isReversed : Bool
  directoriesFirst : Bool
  isDeep : Bool
  /-- Whether directories are told as files are. -/
  isShallow : Bool
  hidesControls : Bool
  withSizes : Bool
  withNumbers : Bool
  withContext : Bool
  withOwner : Bool
  withGroup : Bool
  /-- Whether owners are told by number. -/
  byNumber : Bool
  /-- Patterns of names that are never shown, and of those that are shown only if all are. -/
  ignored : List String
  hidden : List String
  lineLength : Nat
  tab : Nat
  lineEnd : String

/-- A file of a list. -/
structure ListedFile where
  name : String
  location : Location
  /-- What is told about it; nothing if it cannot be looked at. -/
  entry : Option Entry
  /-- What lies there. -/
  own : Entry
  isOperand : Bool

def ListedFile.isDirectory (file : ListedFile) : Bool := file.entry.any (·.isDirectory)

/-! ## Names -/

/-- The characters that marks use, which are quoted where quotes are used. -/
def KindMarks.letters : KindMarks → List Char
  | .all => "*=>@|".toList
  | .types => "=>@|".toList
  | _ => []

/-- A name as it is shown. -/
def ListPlan.shown (plan : ListPlan) (others : List Char) (name : String) : String :=
  let text := plan.style.show_ others name
  let isRaw := match plan.style with
    | .literal => true
    | .shell _ escapes => !escapes
    | _ => false
  if plan.hidesControls && isRaw then
    String.ofList (text.toList.map fun c => if isControl c then '?' else c)
  else text

/-- The mark of a kind of file. -/
def ListPlan.mark (plan : ListPlan) (disk : Disk) (location : Location) (entry : Entry) : String :=
  match plan.marks, entry with
  | .none, _ => ""
  | _, .directory => "/"
  | .slash, _ => ""
  | _, .link _ => "@"
  | .types, _ => ""
  | .all, _ => if disk.modeAt location &&& 0o111 != 0 then "*" else ""

/-- Whether a name fits a pattern; a dot at its start has to be there. -/
def fitsShown (name pattern : String) : Bool :=
  let pattern := Pattern.ofText pattern
  let isHidden := pattern.head? = some (.literal '.')
  (isHidden || !name.startsWith ".") && Pattern.matches_ pattern name.toList

/-- Whether a name in a directory is shown. -/
def ListPlan.shows (plan : ListPlan) (name : String) : Bool :=
  let isDotted := name.startsWith "."
  let isOwn := name == "." || name == ".."
  let passes := match plan.dots with
    | .all => true
    | .almostAll => !isOwn
    | .none => !isDotted && !plan.hidden.any (fitsShown name)
  passes && !plan.ignored.any (fitsShown name)

/-! ## Order -/

/-- The ending of a name, with its dot. -/
def nameEnding (name : String) : String :=
  if name.contains '.' then "." ++ String.ofList (Text.afterLast '.' name.toList) else ""

def listedSize (file : ListedFile) : Nat :=
  match file.entry with
  | some .directory => 4096
  | some (.link target) => target.utf8ByteSize
  | some .sink => 0
  | some entry => Disk.size entry
  | none => 0

/-- The place of a file in the order of changes, the latest first. -/
def changeRank (disk : Disk) (file : ListedFile) : Nat :=
  disk.tree.entries.findIdx (·.1 == file.location)

/-- How two files compare. -/
def ListPlan.compare (plan : ListPlan) (disk : Disk) (a b : ListedFile) : Ordering :=
  let byName := Ord.compare a.name b.name
  let width (file : ListedFile) : Nat := (plan.shown plan.marks.letters file.name).length
  match plan.order with
  | .none => .eq
  | .byName => byName
  | .time => (Ord.compare (changeRank disk a) (changeRank disk b)).then byName
  | .size => (Ord.compare (listedSize b) (listedSize a)).then byName
  | .extension => (Ord.compare (nameEnding a.name) (nameEnding b.name)).then byName
  | .version => (compareVersions a.name.toList b.name.toList).then byName
  | .width => (Ord.compare (width a) (width b)).then byName

/-- Files in the order of a plan. -/
def ListPlan.sorted (plan : ListPlan) (disk : Disk) (files : List ListedFile) : List ListedFile :=
  if plan.order == .none then files
  else files.mergeSort fun a b =>
    let isFirst (file : ListedFile) : Bool := plan.directoriesFirst && (file.isDirectory ||
      ((disk.resolve .look [] file.location.reverse).toOption.any fun
        | .entry _ entry => entry.isDirectory
        | .vacant _ => false))
    if isFirst a != isFirst b then isFirst a
    else
      let order := plan.compare disk a b
      (if plan.isReversed then order.swap else order) != .gt

/-! ## Cells -/

/-- A text in a field of some width, at its right end. -/
def atRight (width : Nat) (text : String) : String := Text.repeated " " (width - text.length) ++ text

def greatestLength (texts : List String) : Nat := (texts.map String.length).foldl max 0

/-- The number of kilobytes that a file takes. -/
def listedBlocks (file : ListedFile) : Nat :=
  match file.entry with
  | some (.link _) => 0
  | _ => (listedSize file + 4095) / 4096 * 4

/-- A file's name with what goes around it. -/
structure ListCell where
  front : String
  name : String
  mark : String

/-- The cells of files. -/
def ListPlan.cells (plan : ListPlan) (disk : Disk) (files : List ListedFile) : List ListCell :=
  let names := files.map fun file => (file, plan.shown plan.marks.letters file.name)
  let isColumned := plan.shape == .downwards || plan.shape == .across
  let aligns := plan.style.isAligned && (plan.shape == .long ||
    (isColumned && plan.lineLength != 0)) && names.any fun (file, name) => name != file.name
  let blocks := files.map fun file => toString (listedBlocks file)
  let blockWidth := if plan.shape == .joined then 0 else greatestLength blocks
  names.map fun (file, name) =>
    let number := if plan.withNumbers then "1 " else ""
    let size := if plan.withSizes then atRight blockWidth (toString (listedBlocks file)) ++ " " else ""
    let context := if plan.withContext && plan.shape != .long then "? " else ""
    { front := number ++ size ++ context
      name := if aligns && name == file.name then " " ++ name else name
      mark := match file.entry, file.own with
        | some entry, _ => plan.mark disk file.location entry
        | none, .directory => plan.mark disk file.location .directory
        | none, .link target => plan.mark disk file.location (.link target)
        | none, _ => "" }

def ListCell.text (cell : ListCell) : String := cell.front ++ cell.name ++ cell.mark

/-! ## Long lines -/

/-- The rights that are told of a file. -/
def modeText (disk : Disk) (file : ListedFile) : String :=
  match file.entry with
  | some .directory => "d" ++ modeLetters (disk.modeAt file.location)
  | some (.link _) => "lrwxrwxrwx"
  | some .sink => "crw-rw-rw-"
  | none =>
    match file.own with
    | .directory => "d?????????"
    | .link _ => "l?????????"
    | _ => "-?????????"
  | some _ => "-" ++ modeLetters (disk.modeAt file.location)

/-- The number of names that a file has. -/
def nameCount (disk : Disk) (file : ListedFile) : Nat :=
  if !file.isDirectory then 1
  else 2 + ((disk.tree.children file.location).filter fun name =>
    (disk.tree.get? (name :: file.location)).any (·.isDirectory)).length

/-- What a link that is told of leads to, with the mark of that. -/
def ListPlan.arrow (plan : ListPlan) (disk : Disk) (file : ListedFile) : String :=
  match file.entry with
  | some (.link target) =>
    let mark := match disk.resolve .look [] file.location.reverse with
      | .ok (.entry location entry) => plan.mark disk location entry
      | _ => ""
    " -> " ++ plan.shown plan.marks.letters (Octets.ofText target) ++ mark
  | _ => ""

/-- The long lines of files. -/
def ListPlan.longLines (plan : ListPlan) (disk : Disk) (files : List ListedFile) : List String :=
  let owner := if plan.byNumber then "0" else "root"
  let counts := files.map fun file => toString (nameCount disk file)
  let sizes := files.map fun file => toString (listedSize file)
  let cells := plan.cells disk files
  (files.zip cells).map fun (file, cell) =>
    let mark := match file.entry with
      | some (.link _) => ""
      | _ => cell.mark
    Text.joined " " ([modeText disk file ++ (if plan.withContext then "?" else ""),
      atRight (greatestLength counts) (toString (nameCount disk file))] ++
      (if plan.withOwner then [owner] else []) ++ (if plan.withGroup then [owner] else []) ++
      (if plan.withContext then ["?"] else []) ++
      [atRight (greatestLength sizes) (toString (listedSize file)), "Jan  1  1970"]) ++ " " ++
      cell.front ++ cell.name ++ plan.arrow disk file ++ mark

/-! ## Lists -/

/-- The list of files in the shape of a plan. -/
def ListPlan.text (plan : ListPlan) (disk : Disk) (files : List ListedFile) : String :=
  let cells := plan.cells disk files
  let measured := cells.map fun cell => (cell.text, cell.text.length)
  let ended (lines : List String) : String := String.join (lines.map (· ++ plan.lineEnd))
  let columned (downwards : Bool) : String :=
    if plan.lineLength == 0 then Columns.joined " " plan.lineEnd 0 0 measured ++ plan.lineEnd
    else ended (Columns.lines downwards plan.lineLength plan.tab measured)
  if files.isEmpty then ""
  else match plan.shape with
    | .lines => ended (cells.map ListCell.text)
    | .long => ended (plan.longLines disk files)
    | .joined => Columns.joined "," plan.lineEnd plan.lineLength 0 measured ++ plan.lineEnd
    | .downwards => columned true
    | .across => columned false

/-- Whether all files are looked at, and not their names alone. -/
def ListPlan.looks (plan : ListPlan) : Bool :=
  plan.shape == .long || plan.order == .time || plan.order == .size || plan.withSizes

/-- Whether what links lead to is looked at. -/
def ListPlan.looksBehind (plan : ListPlan) : Bool :=
  plan.looks || plan.isDeep || plan.marks != .none || plan.directoriesFirst || plan.withNumbers

/-- The files of a directory. -/
def filesOf (plan : ListPlan) (name : String) (location : Location) : Work (List ListedFile) := do
  let disk := (← get).disk
  let own := [(".", location), ("..", location.tail)]
  let children := (disk.tree.children location).reverse.map fun child =>
    (Octets.ofText child, child :: location)
  ((own ++ children).filter fun (name, _) => plan.shows name).mapM fun (child, location) => do
    let entry := disk.tree.get? location
    let own := entry.getD .directory
    let behind := disk.resolve .look [] location.reverse
    let unseen (cause : OsCause) : Work ListedFile := do
      let full := if name == "." then child else insideName name child
      complain s!"cannot access {quotedName full}: {cause.wording}" 1
      return ⟨child, location, none, own, false⟩
    let needsLook := plan.looks || (own.isFile && plan.marks == .all) ||
      (own.isLink && plan.links == .all && plan.looksBehind)
    match behind with
    | .error .denied =>
      if needsLook then unseen .denied else return ⟨child, location, entry, own, false⟩
    | .ok (.entry target other) =>
      if own.isLink && plan.links == .all then return ⟨child, target, some other, own, false⟩
      else return ⟨child, location, entry, own, false⟩
    | fault =>
      if own.isLink && plan.links == .all && plan.looksBehind then
        unseen (match fault with
          | .error cause => cause
          | .ok _ => .notFound)
      else return ⟨child, location, entry, own, false⟩

/-- The greatest number of directories that are listed. -/
def listLimit : Nat := 4096

/-- Lists directories, each with its name and its location, and those inside them if they are asked
for; `titled` says that names are told, and `first` that nothing with a name was listed yet. `fuel`
bounds the number of directories. -/
def listDirectories (plan : ListPlan) (titled : Bool) : Nat → Bool → List (String × Location) →
    Work Unit
  | 0, _, _ => return
  | _ + 1, _, [] => return
  | fuel + 1, first, (name, location) :: others => do
    let isNamed := titled || plan.isDeep
    if !(← get).disk.grants .read location then
      complain s!"cannot open directory {quotedName name}: {OsCause.denied.wording}" 2
      return ← listDirectories plan true fuel first others
    if isNamed then
      if !first then say "\n"
      say (plan.shown [':'] name ++ ":\n")
    let files ← filesOf plan name location
    let disk := (← get).disk
    let files := plan.sorted disk files
    if plan.shape == .long || plan.withSizes then
      let blocks := (files.map listedBlocks).foldl (· + ·) 0
      say s!"total {blocks}{plan.lineEnd}"
    say (plan.text disk files)
    let isOwn (name : String) : Bool := name == "." || name == ".."
    let inner := if plan.isDeep then
        (files.filter fun file => file.isDirectory && !isOwn file.name).map fun file =>
          (insideName name file.name, file.location)
      else []
    listDirectories plan true fuel (first && !isNamed) (inner ++ others)

/-- What an operand names. -/
def listedOperand (plan : ListPlan) (name : String) : Work (Option ListedFile) := do
  let own ← entryAt .entry name
  let behind ← entryAt .look name
  let found := match plan.links, behind with
    | .none, _ => own
    | .directories, .ok (location, .directory) => .ok (location, .directory)
    | .directories, .error .notFound => own
    | .directories, .error .tooManyLinks => own
    | .directories, .error cause => .error cause
    | .directories, .ok _ => own
    | _, behind => behind
  match found with
  | .ok (location, entry) => return some ⟨name, location, some entry, entry, true⟩
  | .error cause =>
    complain s!"cannot access {quotedName name}: {cause.wording}" 2
    return none

/-- Lists what operands name. -/
def listOperands (plan : ListPlan) (names : List String) : Work Unit := do
  let files := (← (if names.isEmpty then ["."] else names).mapM (listedOperand plan)).filterMap id
  let disk := (← get).disk
  let sorted := plan.sorted disk files
  let isOpened (file : ListedFile) : Bool := file.isDirectory && !plan.isShallow
  let told := sorted.filter (!isOpened ·)
  let opened := (sorted.filter isOpened).map fun file => (file.name, file.location)
  say (plan.text disk told)
  if !told.isEmpty && !opened.isEmpty then say "\n"
  let titled := !(told.isEmpty && names.length ≤ 1)
  listDirectories plan titled listLimit true opened

/-! ## Options -/

/-- The letters that stand for words of `ls`. -/
def listWords : List (String × Char) :=
  [("all", 'a'), ("escape", 'b'), ("directory", 'd'), ("dired", 'D'), ("full-time", '\x01'),
    ("group-directories-first", '\x02'), ("human-readable", 'h'), ("inode", 'i'),
    ("kibibytes", 'k'), ("numeric-uid-gid", 'n'), ("no-group", 'G'), ("hide-control-chars", 'q'),
    ("reverse", 'r'), ("size", 's'), ("width", 'w'), ("almost-all", 'A'), ("ignore-backups", 'B'),
    ("classify", '\x03'), ("file-type", '\x04'), ("si", '\x05'),
    ("dereference-command-line", 'H'), ("dereference-command-line-symlink-to-dir", '\x06'),
    ("hide", '\x07'), ("ignore", 'I'), ("indicator-style", '\x08'), ("dereference", 'L'),
    ("literal", 'N'), ("quote-name", 'Q'), ("quoting-style", '\x0b'), ("recursive", 'R'),
    ("format", '\x0c'), ("show-control-chars", '\x0e'), ("sort", '\x0f'), ("tabsize", 'T'),
    ("time", '\x10'), ("time-style", '\x11'), ("zero", '\x12'), ("color", '\x13'),
    ("hyperlink", '\x14'), ("block-size", '\x15'), ("context", 'Z'), ("author", '\x16')]

def listOptions : OptionTable :=
  { options "1abcdfghiklmnopqrstuvxABCDFGHLNQRSUXZ"
      "wIT\x07\x08\x0b\x0c\x0f\x10\x11\x15" listWords
    with optional := ['\x03', '\x13', '\x14'] }

/-- The words for times when something is done: always, never, or where a person reads. -/
def whenWords : List (String × Option Bool) :=
  [("always", some true), ("yes", some true), ("force", some true), ("never", some false),
    ("no", some false), ("none", some false), ("auto", none), ("tty", none), ("if-tty", none)]

def listOrders : List (String × ListOrder) :=
  [("none", .none), ("time", .time), ("size", .size), ("extension", .extension),
    ("version", .version), ("width", .width)]

def listShapes : List (String × ListShape) :=
  [("verbose", .long), ("long", .long), ("commas", .joined), ("horizontal", .across),
    ("across", .across), ("vertical", .downwards), ("single-column", .lines)]

def timeWords : List (String × Nat) :=
  [("atime", 0), ("access", 0), ("use", 0), ("ctime", 1), ("status", 1), ("birth", 2),
    ("creation", 2)]

def markWords : List (String × KindMarks) :=
  [("none", .none), ("slash", .slash), ("file-type", .types), ("classify", .all)]

/-- Why options of `ls` are refused. -/
inductive ListFault where
  | choice (fault : ChoiceFault)
  | width (text : String)
  | tab (text : String)

def lengthOf (text : String) : Option Nat :=
  if text.toList.all fun c => c.isAlphanum then Sizes.readAny? text else none

/-- The plan after one more option. -/
def ListPlan.with_ (plan : ListPlan) (letter : Char) (value : String) : Except ListFault ListPlan :=
  let chosen {α : Type} [BEq α] (purpose : String) (words : List (String × α)) :
      Except ListFault α := (chosenBy purpose words value).mapError .choice
  let short := if plan.shape == .long then plan else { plan with shape := .lines }
  match letter with
  | '1' => .ok short
  | 'a' => .ok { plan with dots := .all }
  | 'A' => .ok { plan with dots := .almostAll }
  | 'b' => .ok { plan with style := .escaped }
  | 'N' => .ok { plan with style := .literal }
  | 'Q' => .ok { plan with style := .quoted true }
  | '\x0b' => (chosen "--quoting-style" NameStyle.words).map fun style => { plan with style }
  | 'd' => .ok { plan with isShallow := true }
  | 'f' => .ok { plan with
      dots := .all, order := .none, withSizes := false
      shape := if plan.shape == .long then .lines else plan.shape }
  | 'g' => .ok { plan with shape := .long, withOwner := false }
  | 'i' => .ok { plan with withNumbers := true }
  | 'l' => .ok { plan with shape := .long }
  | 'm' => .ok { plan with shape := .joined }
  | 'n' => .ok { plan with shape := .long, byNumber := true }
  | 'o' => .ok { plan with shape := .long, withGroup := false }
  | 'p' => .ok { plan with marks := .slash }
  | 'q' => .ok { plan with hidesControls := true }
  | '\x0e' => .ok { plan with hidesControls := false }
  | 'r' => .ok { plan with isReversed := true }
  | 's' => .ok { plan with withSizes := true }
  | 't' => .ok { plan with order := .time }
  | 'v' => .ok { plan with order := .version }
  | 'x' => .ok { plan with shape := .across }
  | 'B' => .ok { plan with ignored := plan.ignored ++ ["*~", ".*~"] }
  | 'C' => .ok { plan with shape := .downwards }
  | 'F' => .ok { plan with marks := .all }
  | '\x03' =>
    if value.isEmpty then .ok { plan with marks := .all }
    else (chosen "--classify" whenWords).map fun time =>
      if time == some true then { plan with marks := .all } else plan
  | '\x04' => .ok { plan with marks := .types }
  | '\x08' => (chosen "--indicator-style" markWords).map fun marks => { plan with marks }
  | 'G' => .ok { plan with withGroup := false }
  | 'H' => .ok { plan with links := .operands }
  | '\x06' => .ok { plan with links := .directories }
  | 'L' => .ok { plan with links := .all }
  | 'R' => .ok { plan with isDeep := true }
  | 'S' => .ok { plan with order := .size }
  | 'U' => .ok { plan with order := .none }
  | 'X' => .ok { plan with order := .extension }
  | '\x0f' => (chosen "--sort" listOrders).map fun order => { plan with order }
  | 'Z' => .ok { plan with withContext := true }
  | '\x01' => .ok { plan with shape := .long }
  | '\x02' => .ok { plan with directoriesFirst := true }
  | '\x07' => .ok { plan with hidden := plan.hidden ++ [value] }
  | 'I' => .ok { plan with ignored := plan.ignored ++ [value] }
  | '\x0c' => (chosen "--format" listShapes).map fun shape => { plan with shape }
  | '\x10' => (chosen "--time" timeWords).map fun _ => plan
  | '\x12' => .ok { short with style := .literal, hidesControls := false, lineEnd := "\x00" }
  | '\x13' => if value.isEmpty then .ok plan else (chosen "--color" whenWords).map fun _ => plan
  | '\x14' => if value.isEmpty then .ok plan else (chosen "--hyperlink" whenWords).map fun _ => plan
  | 'w' =>
    match lengthOf value with
    | some lineLength => .ok { plan with lineLength }
    | none => .error (.width value)
  | 'T' =>
    match lengthOf value with
    | some tab => .ok { plan with tab }
    | none => .error (.tab value)
  | _ => .ok plan

/-- The plan that nothing is said about. -/
def ListPlan.standard : ListPlan where
  shape := .lines
  order := .byName
  marks := .none
  links := .none
  dots := .none
  style := .literal
  isReversed := false
  directoriesFirst := false
  isDeep := false
  isShallow := false
  hidesControls := false
  withSizes := false
  withNumbers := false
  withContext := false
  withOwner := true
  withGroup := true
  byNumber := false
  ignored := []
  hidden := []
  lineLength := 80
  tab := 8
  lineEnd := "\n"

/-- The plan that options describe, before the environment. -/
def ListPlan.ofOptions (given : Invocation) (start : ListPlan) : Except ListFault ListPlan := do
  let plan ← given.options.foldlM (fun plan (letter, value) => plan.with_ letter value) start
  let isLinked := ['H', 'L', '\x06'].any given.has
  let links : LinkView := if isLinked then plan.links
    else if plan.isShallow || plan.marks == .all || plan.shape == .long then .none
    else .directories
  let isOrdered := ['t', 'S', 'v', 'U', 'X', 'f', '\x0f'].any given.has
  let isTimed := (['c', 'u', '\x10'].any given.has) && !isOrdered && plan.shape != .long
  return { plan with links, order := if isTimed then .time else plan.order }

/-- Lists directories and files. -/
def ls : Work Unit :=
  withOptions listOptions 2 fun given => do
    let environment := (← get).call.environment
    let start : ListPlan := .standard
    let start ← match environment.lookup "QUOTING_STYLE" with
      | none => pure start
      | some word =>
        match NameStyle.words.lookup word with
        | some style => pure { start with style }
        | none =>
          if !(['b', 'N', 'Q', '\x0b', '\x12'].any given.has) then
            complain ("ignoring invalid value of environment variable QUOTING_STYLE: " ++
              quotedName word) 0
          pure start
    match start.ofOptions given with
    | .error (.choice fault) => misuse fault.message 1
    | .error (.width text) => complain s!"invalid line width: {quotedName text}" 2
    | .error (.tab text) => complain s!"invalid tab size: {quotedName text}" 2
    | .ok plan =>
      let isMeasured := plan.shape != .lines && plan.shape != .long
      let plan ← match environment.lookup "COLUMNS", given.has 'w' || !isMeasured with
        | some word, false =>
          if word.isEmpty then pure plan
          else match lengthOf word with
            | some lineLength => pure { plan with lineLength }
            | none =>
              complain ("ignoring invalid width in environment variable COLUMNS: " ++
                quotedName word) 0
              pure plan
        | _, _ => pure plan
      listOperands plan given.operands

end JavaStubs.Host

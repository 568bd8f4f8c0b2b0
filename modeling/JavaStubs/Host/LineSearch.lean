import JavaStubs.Host.Inputs
import JavaStubs.Host.Regex

namespace JavaStubs.Host

open Work

/-- What lines are searched for. -/
structure Query where
  expressions : List Regex
  ignoreCase : Bool
  wholeLine : Bool
  wholeWord : Bool

namespace Query

/-- The expression with the bounds that a query asks for. -/
def bounded (query : Query) (regex : Regex) : Regex :=
  let regex := if query.wholeWord then .chain .noWordBefore (.chain regex .noWordAfter) else regex
  if query.wholeLine then .chain .lineStart (.chain regex .lineEnd) else regex

/-- The first text of a line that fits. -/
def find (query : Query) (before line : List Char) : Option Regex.Match :=
  (query.expressions.filterMap fun regex =>
    (query.bounded regex).searchFrom ⟨query.ignoreCase, false⟩ before line).foldl (fun best found =>
      match best with
      | none => some found
      | some other =>
        if found.before.length < other.before.length ||
            (found.before.length = other.before.length && other.text.length < found.text.length)
        then some found else some other) none

/-- All texts of a line that fit and are not empty, with their places; `fuel` is more than its
length. -/
def findAll (query : Query) : Nat → List Char → List Char → List (Nat × List Char)
  | 0, _, _ => []
  | fuel + 1, before, line =>
    match query.find before line with
    | none => []
    | some found =>
      match found.text, found.rest with
      | [], [] => []
      | [], c :: rest => query.findAll fuel (c :: found.before) rest
      | text, rest =>
        (found.before.length, text) :: query.findAll fuel (text.reverse ++ found.before) rest

end Query

/-- What is shown of a search. -/
structure SearchView where
  /-- Lines to show in front of and behind those that were found. -/
  before : Option Nat
  after : Option Nat
  limit : Option Nat
  inverted : Bool
  numbers : Bool
  offsets : Bool
  /-- Whether just the texts that fit are shown. -/
  parts : Bool
  ending : Char

/-- A line of a text: its number, the number of octets in front of it, what it says, and whether it
was found. -/
structure SearchRow where
  number : Nat
  offset : Nat
  line : String
  isFound : Bool

/-- The lines of a text, those behind the last one that counts left unfound. -/
def searchRows (query : Query) (view : SearchView) (text : String) : List SearchRow :=
  let lines := Text.fieldsOf view.ending text
  let lines := if lines.getLast? = some "" then lines.dropLast else lines
  let (rows, _, _) := lines.foldl (fun (rows, offset, found) line =>
    let isOver : Bool := match view.limit with
      | some limit => limit ≤ found
      | none => false
    let isFound := !isOver && (query.find [] line.toList).isSome != view.inverted
    (⟨rows.length + 1, offset, line, isFound⟩ :: rows, offset + line.length + 1,
      if isFound then found + 1 else found)) (([] : List SearchRow), 0, 0)
  rows.reverse

/-- The part of a view's output that stands in front of a line or of a part of one. -/
def rowFront (view : SearchView) (title : Option String) (mark : String) (row : SearchRow)
    (place : Nat) : String :=
  (title.map (· ++ mark)).getD "" ++
    (if view.numbers then s!"{row.number}{mark}" else "") ++
    (if view.offsets then s!"{row.offset + place}{mark}" else "")

/-- What is printed for a line that was found, or that stands near one. -/
def rowText (query : Query) (view : SearchView) (title : Option String) (row : SearchRow) :
    String :=
  let mark := if row.isFound then ":" else "-"
  if !view.parts then (rowFront view title mark row 0 ++ row.line).push view.ending
  else if view.inverted || !row.isFound then ""
  else
    let parts := query.findAll (row.line.length + 2) [] row.line.toList
    String.join (parts.map fun (place, text) =>
      (rowFront view title mark row place ++ String.ofList text).push view.ending)

/-- The lines to show: those found, and those near them. -/
def shownRows (view : SearchView) (rows : List SearchRow) : List SearchRow :=
  let found := (rows.filter SearchRow.isFound).map SearchRow.number
  let last := found.getLast?.getD 0
  let beyond := ((rows.drop last).map SearchRow.number).take (view.after.getD 0)
  rows.filter fun row =>
    row.isFound || beyond.contains row.number || found.any fun number =>
      (row.number < number && number ≤ row.number + view.before.getD 0) ||
        (number < row.number && row.number ≤ number + view.after.getD 0 && row.number < last)

/-- The output for the lines of a text; `used` says that something was printed before. -/
def rowsText (query : Query) (view : SearchView) (title : Option String) (used : Bool)
    (rows : List SearchRow) : String :=
  let parted := view.before.isSome || view.after.isSome
  let (pieces, _, _) := rows.foldl (fun (pieces, used, last) row =>
    let gap := parted && used && row.number ≠ last + 1
    let pieces := if gap then "--\n" :: pieces else pieces
    (rowText query view title row :: pieces, true, row.number))
    (([] : List String), used, if used then rows.length + 1000000000 else 0)
  String.join pieces.reverse

/-- Complains about how a search was called. -/
def searchMisuse (message : Option String) : Work Unit := do
  if let some message := message then sayError s!"grep: {message}\n"
  sayError "Usage: grep [OPTION]... PATTERNS [FILE]...\nTry 'grep --help' for more information.\n"
  fail 2

/-- The options of a search. -/
def searchOptions : OptionTable :=
  { options "EFGiyvcnqlLoxwshHrRazZbUuIT0123456789\x04" "eAmBCfdD\x01\x02\x03" [("extended-regexp", 'E'),
      ("fixed-strings", 'F'), ("basic-regexp", 'G'), ("ignore-case", 'i'), ("invert-match", 'v'),
      ("count", 'c'), ("line-number", 'n'), ("quiet", 'q'), ("silent", 'q'),
      ("files-with-matches", 'l'), ("files-without-match", 'L'), ("only-matching", 'o'),
      ("line-regexp", 'x'), ("word-regexp", 'w'), ("regexp", 'e'), ("no-messages", 's'),
      ("no-filename", 'h'), ("with-filename", 'H'), ("max-count", 'm'), ("after-context", 'A'),
      ("before-context", 'B'), ("context", 'C'), ("file", 'f'), ("recursive", 'r'),
      ("dereference-recursive", 'R'), ("text", 'a'), ("null", 'Z'), ("null-data", 'z'),
      ("byte-offset", 'b'), ("directories", 'd'), ("include", '\x01'), ("exclude", '\x02'),
      ("exclude-dir", '\x03'), ("color", '\x04'), ("colour", '\x04'), ("line-buffered", 'U'),
      ("binary", 'U')] with
    optional := ['\x04'] }

/-- The files to search below a directory, by names that begin with that of the directory; `fuel` is
more than the depth. -/
def searchedBelow (leave : Bool → String → Bool) : Nat → String → Work (List String)
  | 0, _ => return []
  | fuel + 1, name => do
    match ← entryAt .look (if name.isEmpty then "." else name) with
    | .ok (location, .directory) =>
      let inner := (← get).disk.tree.children location
      let found ← inner.mapM fun child => do
        let path := if name.isEmpty then child
          else if name.endsWith "/" then name ++ child else name ++ "/" ++ child
        match ← entryAt .entry path with
        | .ok (_, .directory) =>
          if leave true child then return [] else searchedBelow leave fuel path
        | .ok (_, .link _) => return []
        | _ => return if leave false child then [] else [path]
      return found.flatten
    | _ => return [name]

/-- Prints the lines of texts that fit one of some patterns. -/
def grep (extended fixed : Bool) : Work Unit := do
  match searchOptions.read (← get).call.arguments with
  | .error fault => searchMisuse (some fault.message)
  | .ok given =>
    let named ← (given.options.filter fun (letter, _) => letter == 'e' || letter == 'f').mapM
      fun (letter, text) => do
        if letter == 'e' then return some [text]
        match ← textOf text with
        | .ok text => return some (linesOf text)
        | .error cause =>
          sayError s!"grep: {text}: {cause.wording}\n"
          return none
    let (patterns, files) := if named.isEmpty
      then ((given.operands.take 1).map fun text => some [text], given.operands.drop 1)
      else (named, given.operands)
    let lengths := ['A', 'B', 'C'].filterMap given.value?
    let badLength := lengths.find? fun text => text.isEmpty || !text.toList.all Char.isDigit
    let badLimit := (given.value? 'm').any fun text => text.toNat?.isNone
    if let some text := badLength then
      sayError s!"grep: {text}: invalid context length argument\n"
      fail 2
    else if badLimit then
      sayError "grep: invalid max count\n"
      fail 2
    else if patterns.isEmpty then searchMisuse none
    else if patterns.any Option.isNone then fail 2
    else
      let kind := given.last? ['E', 'F', 'G']
      let isFixed := kind == some 'F' || (kind.isNone && fixed)
      let isExtended := kind == some 'E' || (kind.isNone && extended)
      let texts := ((patterns.filterMap id).flatten).flatMap (Text.fieldsOf '\n')
      match texts.mapM (expressionOf isFixed isExtended) with
      | .error fault =>
        sayError s!"grep: {fault.message}\n"
        fail 2
      | .ok expressions =>
        let ignoreCase := given.has 'i' || given.has 'y'
        let digits := (given.options.map Prod.fst).filter Char.isDigit
        let around := ((given.value? 'C').bind (·.toNat?)) <|> (String.ofList digits).toNat?
        let view : SearchView :=
          { before := ((given.value? 'B').bind (·.toNat?)) <|> around
            after := ((given.value? 'A').bind (·.toNat?)) <|> around
            limit := (given.value? 'm').bind (·.toNat?)
            inverted := given.has 'v'
            numbers := given.has 'n'
            offsets := given.has 'b'
            parts := given.has 'o'
            ending := if given.has 'z' then '\x00' else '\n' }
        searchFiles given ⟨expressions, ignoreCase, given.has 'x', given.has 'w'⟩ view files
where
  /-- The expression that a text spells. -/
  expressionOf (isFixed isExtended : Bool) (text : String) : Except Regex.Fault Regex :=
    if isFixed then .ok (.ofText text) else Regex.read ⟨isExtended, true⟩ text
  /-- Searches files. -/
  searchFiles (given : Invocation) (query : Query) (view : SearchView) (files : List String) :
      Work Unit := do
    let recurses := given.has 'r' || given.has 'R' || given.value? 'd' == some "recurse"
    let fitting (letter : Char) (name : String) : Bool :=
      (given.options.filter (·.1 == letter)).any fun (_, pattern) =>
        Pattern.matches_ (Pattern.ofText pattern) name.toList
    let leave (isDirectory : Bool) (name : String) : Bool :=
      if isDirectory then fitting '\x03' name
      else fitting '\x02' name || (given.has '\x01' && !fitting '\x01' name)
    let groups ← (if recurses && files.isEmpty then [""] else orInput files).mapM fun name => do
      if !recurses || name == "-" then return [name]
      let start := if name.isEmpty then "." else name
      match ← entryAt .look start with
      | .ok (_, .directory) => searchedBelow leave 64 name
      | _ => return [name]
    let names := groups.flatten
    let several := if recurses then names != files else 1 < names.length
    let shows := match given.last? ['h', 'H'] with
      | some letter => letter == 'H'
      | none => several
    let found ← names.mapM fun name => searchFile given query view shows name
    let isFound := found.any Prod.fst
    let isFailed := found.any Prod.snd
    fail (if isFound && (given.has 'q' || !isFailed) then 0 else if isFailed then 2 else 1)
  /-- Searches a file; the result tells whether something was found, and whether it could not be
  read. -/
  searchFile (given : Invocation) (query : Query) (view : SearchView) (shows : Bool)
      (name : String) : Work (Bool × Bool) := do
    match ← textOf name with
    | .error cause =>
      let isOwn := name == "-"
      let isLeft := cause == .isDirectory && !isOwn &&
        (given.value? 'd' == some "skip" || given.has 'r' || given.has 'R')
      let title := inputName "(standard input)" name
      if !given.has 's' && !isLeft then sayError s!"grep: {title}: {cause.wording}\n"
      if isOwn && !given.has 'q' && !given.has 'l' then
        if given.has 'L' then say (title ++ if given.has 'Z' then "\x00" else "\n")
        else if given.has 'c' then say ((if shows then title ++ ":" else "") ++ "0\n")
      return (false, !isLeft)
    | .ok text =>
      let rows := searchRows query view text
      let isFound := rows.any SearchRow.isFound
      let title := inputName "(standard input)" name
      let listed := title ++ if given.has 'Z' then "\x00" else "\n"
      if given.has 'q' then pure ()
      else if given.has 'l' then
        if isFound then say listed
      else if given.has 'L' then
        if !isFound then say listed
      else if given.has 'c' then
        let count := (rows.filter SearchRow.isFound).length
        say ((if shows then title ++ ":" else "") ++ s!"{count}\n")
      else if isFound && text.toList.contains '\x00' && !given.has 'a' && !given.has 'z' then
        if !given.has 'I' then sayError s!"grep: {title}: binary file matches\n"
      else
        let used := (← get).printed.any fun piece => piece matches .out _
        let title := if shows then some title else none
        say (rowsText query view title used (shownRows view rows))
      return (isFound, false)

end JavaStubs.Host

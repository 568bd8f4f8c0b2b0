import JavaStubs.Host.FileTests

/-!
How searches for files are written: the words of tests and their arguments, and the words that say
where and how far is searched. A file that a test prints to is made, or emptied, when the test is
read.
-/
namespace JavaStubs.Host

open Work
open Pattern (Written)

/-! ## Plans -/

/-- Where links are followed. -/
inductive LinkFollowing where
  | never
  /-- Where a search starts. -/
  | atStart
  | always
  deriving DecidableEq, Repr

/-- How regular expressions for paths are written. -/
inductive PathDialect where
  /-- Groups and choices need a backslash, repetitions do not. -/
  | mixed
  | basic
  | extended
  deriving DecidableEq, Repr

/-- How a search goes. -/
structure FileSearchPlan where
  follows : LinkFollowing := .never
  least : Nat := 0
  most : Option Nat := none
  /-- Whether what a directory holds comes before the directory. -/
  insideFirst : Bool := false

/-- Where the reading of a search stands. -/
structure FileWords where
  plan : FileSearchPlan
  dialect : PathDialect := .mixed
  /-- The number of commands that are run for many files. -/
  gathered : Nat := 0
  /-- Whether the order was asked for by its own word. -/
  choosesOrder : Bool := false

/-- Why a search is not understood. -/
inductive FileWordFault where
  | unknown (word : String)
  | misplaced (word : String) (behind : Option String)
  | missing (word : String)
  | invalid (argument word : String)
  /-- A fault with a wording of its own. -/
  | worded (message : String)
  deriving Repr

def FileWordFault.messages : FileWordFault → List String
  | .unknown word => [s!"unknown predicate \x60{word}'"]
  | .misplaced word behind => s!"paths must precede expression: \x60{word}'" ::
    behind.toList.map fun test => s!"possible unquoted pattern after predicate \x60{test}'?"
  | .missing word => [s!"missing argument to \x60{word}'"]
  | .invalid argument word => [s!"invalid argument \x60{argument}' to \x60{word}'"]
  | .worded message => [message]

/-- A step of reading a search. -/
abbrev FileWordStep := StateT FileWords (ExceptT FileWordFault Work)

/-- A name between quotation marks, with backslashes where they are needed. -/
def markedName (name : String) : String :=
  String.ofList (['\''] ++ (name.toList.flatMap fun c =>
    if c == '\'' || c == '\\' then ['\\', c] else if isControl c then controlEscape c else [c]) ++ ['\''])

namespace FileWordStep

def refuse {α : Type} (message : String) : FileWordStep α := throw (.worded message)

/-- Ends the reading with the wording of an obstacle. -/
def refuseName {α : Type} (name : String) (cause : OsCause) : FileWordStep α :=
  refuse s!"{markedName name}: {cause.wording}"

/-! ## Arguments -/

/-- The number that a text spells in digits alone. -/
def number? (text : String) : Option Nat :=
  if text.isEmpty || !text.toList.all Char.isDigit then none else text.toNat?

/-- The bound that a text spells: a number, perhaps with a sign. -/
def bound? (text : String) : Option CountBound :=
  match text.toList with
  | '+' :: digits => (number? (String.ofList digits)).map .above
  | '-' :: digits => (number? (String.ofList digits)).map .below
  | digits => (number? (String.ofList digits)).map .exactly

def boundOf (word argument : String) : FileWordStep CountBound :=
  match bound? argument with
  | some bound => return bound
  | none => throw (.invalid argument word)

def depthOf (word argument : String) : FileWordStep Nat :=
  match number? argument with
  | some depth =>
    if depth < 0x80000000 then return depth
    else refuse s!"{argument}: Numerical result out of range"
  | none =>
    refuse s!"Expected a positive decimal integer argument to {word}, but got {markedName argument}"

/-- Whether something that was changed just now meets a bound on the time since then; `isShort` says
that it is counted in minutes. -/
def holdsFresh (word argument : String) : FileWordStep FileTest := do
  let (sign, digits) : Option Char × List Char := match argument.toList with
    | '+' :: digits => (some '+', digits)
    | '-' :: digits => (some '-', digits)
    | digits => (none, digits)
  let isShort := word.endsWith "min"
  let parts := Text.fieldsOf '.' (String.ofList digits)
  let isNumber := !digits.isEmpty && parts.length ≤ 2 &&
    parts.all (·.toList.all Char.isDigit) && parts.any (!·.isEmpty)
  if !isNumber then throw (.invalid argument word)
  let isZero := parts.all (·.toList.all (· == '0'))
  let isBelowOne := (parts.head?.getD "").toList.all (· == '0')
  return .always (match sign with
    | some '+' => isShort && isZero
    | some _ => !isZero
    | none => if isShort then !isZero && isBelowOne || (parts.head?.getD "").toNat? == some 1
      else isBelowOne)

/-- The test of sizes that an argument spells. -/
def sizeOf (argument : String) : FileWordStep FileTest := do
  let chars := argument.toList
  let last := chars.getLast?.getD '0'
  if chars.isEmpty then refuse "invalid null argument to -size"
  let unit? : Option Nat :=
    if last.isDigit then some 512
    else [('b', 512), ('c', 1), ('w', 2), ('k', 1024), ('M', 1048576), ('G', 1073741824)].lookup last
  match unit? with
  | none => refuse s!"invalid -size type \x60{last}'"
  | some unit =>
    let digits := if last.isDigit then chars else chars.dropLast
    match bound? (String.ofList digits) with
    | some bound =>
      let size := match bound with
        | .exactly n => n
        | .above n => n
        | .below n => n
      if size < 0x8000000000000000 then return .size unit bound
      else refuse s!"Invalid argument \x60{argument}' to -size"
    | none => refuse s!"Invalid argument \x60{argument}' to -size"

/-- The letters of kinds that an argument lists. -/
def kindsOf (word argument : String) : FileWordStep (List Char) := do
  if argument.isEmpty then refuse s!"Arguments to {word} should contain at least one letter"
  letters [] argument.toList
where
  /-- The letters from one on, behind those found so far. -/
  letters (found : List Char) : List Char → FileWordStep (List Char)
    | [] => return found
    | letter :: rest => do
      if letter == 'D' then
        refuse (s!"{word} D is not supported because Solaris doors are not supported on the " ++
          "platform find was compiled on.")
      if !"bcdflps".toList.contains letter then refuse s!"Unknown argument to {word}: {letter}"
      if found.contains letter then
        refuse s!"Duplicate file type '{letter}' in the argument list to {word}."
      match rest with
      | [] => return letter :: found
      | [','] => refuse (s!"Last file type in list argument to {word} is missing, " ++
          "i.e., list is ending on: ','")
      | ',' :: rest => letters (letter :: found) rest
      | _ => refuse s!"Must separate multiple arguments to {word} using: ','"

/-- The test of modes that an argument spells. -/
def modeOf (argument : String) : FileWordStep FileTest := do
  let (bound, text) : ModeBound × String := match argument.toList with
    | '-' :: text => (.all, String.ofList text)
    | '/' :: text => (.any, String.ofList text)
    | _ => (.exactly, argument)
  let isOldForm := match text.toList with
    | '+' :: c :: _ => isModeDigit c
    | _ => false
  match if isOldForm then none else modeSteps? text with
  | none => refuse s!"invalid mode {markedName argument}"
  | some steps =>
    let onFiles := modeAfter steps 0 false 0
    let onDirectories := modeAfter steps 0 true 0
    if bound == .any && onFiles == 0 then
      liftM (m := Work) (complain ("warning: you have specified a mode pattern " ++ argument ++
        " (which is equivalent to /000). The meaning of -perm /000 has now been changed to be " ++
        "consistent with -perm -000; that is, while it used to match no files, it now matches " ++
        "all files.") 0)
      return .mode .all 0 0
    return .mode bound onFiles onDirectories

/-- An expression in the mixed notation, in the extended one. -/
def extendedOf : List Char → List Written
  | '\\' :: c :: rest =>
    if "(|)".toList.contains c then (c, false) :: extendedOf rest
    else ('\\', false) :: (c, false) :: extendedOf rest
  | '[' :: c :: rest => ('[', false) :: (c, false) :: extendedOf rest
  | c :: rest => (c, "(|)\x7b\x7d".toList.contains c) :: extendedOf rest
  | [] => []

/-- The regular expression that an argument spells. -/
def regexOf (dialect : PathDialect) (argument : String) : FileWordStep Regex :=
  let read := match dialect with
    | .mixed => Regex.ofWritten ⟨true, true⟩ (extendedOf argument.toList)
    | .basic => Regex.read ⟨false, true⟩ argument
    | .extended => Regex.read ⟨true, true⟩ argument
  match read with
  | .ok regex => return regex
  | .error fault =>
    let wording := if fault matches .openSet then "Invalid regular expression" else fault.message
    refuse s!"failed to compile regular expression '{argument}': {wording}"

def dialects : List (String × PathDialect) :=
  [("findutils-default", .mixed), ("ed", .basic), ("emacs", .mixed), ("gnu-awk", .extended),
    ("grep", .basic), ("posix-awk", .extended), ("awk", .extended), ("posix-basic", .basic),
    ("posix-egrep", .extended), ("egrep", .extended), ("posix-extended", .extended),
    ("posix-minimal-basic", .basic), ("sed", .basic)]

def placeOf (argument : String) : FileWordStep Location := do
  let purpose : FileTree.Purpose :=
    if (← get).plan.follows == .never then .entry else .look
  match ← liftM (m := Work) (entryAt purpose argument) with
  | .ok (location, _) => return location
  | .error cause => refuseName argument cause

/-- A file to print to, which is made or emptied. -/
def targetOf (argument : String) : FileWordStep String := do
  match ← liftM (m := Work) (writeText argument "" false) with
  | .ok () => return argument
  | .error cause => refuseName argument cause

/-! ## Formats -/

/-- The directives of a format that one letter names. -/
def pieceLetters : List Char := "abcdDfFgGhHiklmMnpPsStuUyYZ".toList

/-- The pieces of a format; `fuel` is more than its length. -/
def piecesOf : Nat → List Char → FileWordStep (List FilePiece)
  | 0, _ => return []
  | _ + 1, [] => return []
  | fuel + 1, '\\' :: rest => do
    let warn (message : String) : FileWordStep Unit :=
      liftM (m := Work) (complain s!"warning: {message}" 0)
    match rest with
    | [] =>
      warn "escape \x60\\' followed by nothing at all"
      return [.text "\\"]
    | c :: more =>
      let (n, count, after) := leadingNumber 8 3 0 0 rest
      if 0 < count then
        return .text (String.ofList [Char.ofNat (n % 256)]) :: (← piecesOf fuel after)
      else if c == 'c' then return [.stop]
      else match (if c == 'e' then none else letterEscape? c).or (if c == '\\' then some '\\' else none) with
        | some d => return .text (String.ofList [d]) :: (← piecesOf fuel more)
        | none =>
          warn s!"unrecognized escape \x60\\{c}'"
          return .text (String.ofList ['\\', c]) :: (← piecesOf fuel more)
  | fuel + 1, '%' :: rest => do
    let warn (message : String) : FileWordStep Unit :=
      liftM (m := Work) (complain s!"warning: {message}" 0)
    let flags := rest.takeWhile "-+ #0".toList.contains
    let behind := rest.drop flags.length
    let width := behind.takeWhile Char.isDigit
    let behind := behind.drop width.length
    let (precision, behind) : Option (List Char) × List Char := match behind with
      | '.' :: more => (some (more.takeWhile Char.isDigit), more.dropWhile Char.isDigit)
      | behind => (none, behind)
    let numberOf (digits : List Char) : Nat := (String.ofList digits).toNat?.getD 0
    let shape : Shape := ⟨flags, numberOf width, precision.map numberOf⟩
    match behind with
    | [] =>
      if rest.isEmpty then refuse "error: % at end of format string"
      else refuse "error: the format directive \x60%\x00' is reserved for future use"
    | '%' :: more => return .text "%" :: (← piecesOf fuel more)
    | c :: more =>
      if pieceLetters.contains c then return .directive shape c :: (← piecesOf fuel more)
      else if "\x7b[(".toList.contains c then
        refuse s!"error: the format directive \x60%{c}' is reserved for future use"
      else if "ABCT".toList.contains c then
        if more.isEmpty then
          warn s!"format directive \x60%{c}' should be followed by another character"
          return [.text (String.ofList ('%' :: [c]))]
        return .directive shape c :: (← piecesOf fuel (more.drop 1))
      else
        warn s!"unrecognized format directive \x60%{c}'"
        return .text (String.ofList ('%' :: rest.take (rest.length - more.length))) ::
          (← piecesOf fuel more)
  | fuel + 1, c :: rest => return .text (String.ofList [c]) :: (← piecesOf fuel rest)

def formatOf (argument : String) : FileWordStep (List FilePiece) :=
  piecesOf (argument.length + 1) argument.toList

/-! ## Commands -/

/-- The braces that stand for files in commands. -/
def braces : String := "\x7b\x7d"

def holdsBraces (word : String) : Bool := (word.splitOn braces).length != 1

/-- The words of a command in front of its end, whether it is to be run for many files, and what is
behind it; the words found so far are given, the last one first. -/
def commandWords (mayGather : Bool) (found : List String) :
    List String → Option (List String × Bool × List String)
  | [] => none
  | word :: rest =>
    if word == ";" then some (found.reverse, false, rest)
    else if mayGather && word == "+" && found.head?.any holdsBraces then
      some (found.reverse, true, rest)
    else commandWords mayGather (word :: found) rest

/-- The test that runs the command at the start of some words, and what is behind it. -/
def commandAt (word : String) (words : List String) : FileWordStep (FileTest × List String) := do
  let asks := word.startsWith "-ok"
  match commandWords (!asks) [] words with
  | none => throw (.missing word)
  | some ([], false, _) => throw (.invalid ";" word)
  | some (command, gathers, rest) =>
    let isInside := word.endsWith "dir"
    if !gathers then return (.run ⟨command, isInside, asks⟩, rest)
    if 1 < (command.filter holdsBraces).length then
      refuse s!"Only one instance of {braces} is supported with {word} ... +"
    if let some other := command.find? fun word => holdsBraces word && word != braces then
      let form := markedName (word ++ " ... " ++ braces ++ " +")
      refuse (s!"In {form} the {markedName braces} must appear by itself, but you specified " ++
        markedName other)
    let number := (← get).gathered
    modify fun words => { words with gathered := number + 1 }
    return (.gather number ⟨command.dropLast, isInside, asks⟩, rest)

/-! ## Tests -/

/-- The names of users that every host knows, besides the one who owns all files. -/
def otherUsers : List String :=
  ["daemon", "bin", "sys", "sync", "games", "man", "lp", "mail", "news", "uucp", "proxy", "www-data",
    "backup", "list", "irc", "nobody"]

/-- The test that a word without an argument stands for. -/
def plainTest (word : String) : FileWordStep (Option FileTest) := do
  let set (change : FileWords → FileWords) : FileWordStep (Option FileTest) := do
    modify change
    return some (.always true)
  match word with
  | "-true" => return some (.always true)
  | "-false" => return some (.always false)
  | "-empty" => return some .isEmpty
  | "-readable" => return some (.grants .read)
  | "-writable" => return some (.grants .write)
  | "-executable" => return some (.grants .run)
  | "-nouser" => return some (.always false)
  | "-nogroup" => return some (.always false)
  | "-print" => return some (.print "\n" none)
  | "-print0" => return some (.print "\x00" none)
  | "-delete" =>
    modify fun words => { words with plan := { words.plan with insideFirst := true } }
    return some .delete
  | "-prune" => return some .prune
  | "-quit" => return some .quit
  | "-depth" | "-d" => set fun words =>
      { words with choosesOrder := true, plan := { words.plan with insideFirst := true } }
  | "-follow" => set fun words => { words with plan := { words.plan with follows := .always } }
  | "-mount" | "-xdev" | "-noleaf" | "-warn" | "-nowarn" | "-daystart" | "-ignore_readdir_race"
  | "-noignore_readdir_race" => return some (.always true)
  | _ => return none

/-- Whether a word stands for a test with an argument. -/
def takesArgument (word : String) : Bool :=
  ["-name", "-iname", "-path", "-ipath", "-wholename", "-iwholename", "-lname", "-ilname", "-regex",
    "-iregex", "-regextype", "-type", "-xtype", "-size", "-perm", "-links", "-inum", "-uid", "-gid",
    "-user", "-group", "-newer", "-anewer", "-cnewer", "-samefile", "-mtime", "-atime", "-ctime",
    "-mmin", "-amin", "-cmin", "-used", "-fstype", "-maxdepth", "-mindepth", "-printf", "-fprint",
    "-fprint0", "-fprintf"].contains word

/-- The test of a name that an argument spells. -/
def nameTest (part : NamePart) (ignoresCase : Bool) (argument : String) : FileTest :=
  .name part (Pattern.ofText (if ignoresCase then argument.toLower else argument)) ignoresCase

/-- The test of a word and its argument. -/
def testOf (word argument : String) : FileWordStep FileTest := do
  let ignoresCase := word.startsWith "-i" && word != "-inum"
  match word with
  | "-name" | "-iname" => return nameTest .base ignoresCase argument
  | "-path" | "-ipath" | "-wholename" | "-iwholename" => return nameTest .path ignoresCase argument
  | "-lname" | "-ilname" => return nameTest .target ignoresCase argument
  | "-regex" | "-iregex" => return .fits (← regexOf (← get).dialect argument) ignoresCase
  | "-regextype" =>
    match dialects.lookup argument with
    | some dialect =>
      modify fun words => { words with dialect }
      return .always true
    | none => refuse (s!"Unknown regular expression type {markedName argument}; valid types are " ++
        Text.joined ", " (dialects.map fun (name, _) => markedName name) ++ ".")
  | "-type" | "-xtype" => return .kind (← kindsOf word argument) (word == "-xtype")
  | "-size" => sizeOf argument
  | "-perm" => modeOf argument
  | "-links" => return .names (← boundOf word argument)
  | "-inum" =>
    let bound ← boundOf word argument
    return .always (bound matches .above _)
  | "-uid" | "-gid" => return .always ((← boundOf word argument).admits 0)
  | "-user" =>
    if argument.isEmpty then refuse "The argument to -user should not be empty"
    if argument == "root" then return .always true
    if otherUsers.contains argument then return .always false
    match number? argument with
    | some number => return .always (number == 0)
    | none => refuse s!"{markedName argument} is not the name of a known user"
  | "-group" =>
    if argument.isEmpty then refuse "argument to -group is empty, but should be a group name"
    if argument == "root" then return .always true
    if otherUsers.contains argument then return .always false
    match number? argument with
    | some number => return .always (number == 0)
    | none => refuse s!"{markedName argument} is not the name of an existing group"
  | "-newer" | "-anewer" | "-cnewer" => return .isLater (← placeOf argument)
  | "-samefile" => return .isSame (← placeOf argument)
  | "-mtime" | "-atime" | "-ctime" | "-mmin" | "-amin" | "-cmin" => holdsFresh word argument
  | "-used" =>
    let _ ← boundOf word argument
    return .always false
  | "-fstype" => return .always false
  | "-maxdepth" =>
    let depth ← depthOf word argument
    modify fun words => { words with plan := { words.plan with most := some depth } }
    return .always true
  | "-mindepth" =>
    let depth ← depthOf word argument
    modify fun words => { words with plan := { words.plan with least := depth } }
    return .always true
  | "-printf" => return .printPieces (← formatOf argument) none
  | "-fprint" => return .print "\n" (some (← targetOf argument))
  | _ => return .print "\x00" (some (← targetOf argument))

/-- The mark that begins some words, and the words behind it. -/
def markAt (word : String) (rest : List String) : FileWordStep (FileMark × List String) := do
  if let some sign := FileSign.ofWord? word then return (.sign sign word true, rest)
  if let some test ← plainTest word then return (.test test, rest)
  if ["-exec", "-execdir", "-ok", "-okdir"].contains word then
    let (test, rest) ← commandAt word rest
    return (.test test, rest)
  if !takesArgument word then throw (.unknown word)
  match rest with
  | [] => throw (.missing word)
  | argument :: rest =>
    if word != "-fprintf" then return (.test (← testOf word argument), rest)
    match rest with
    | [] => throw (.invalid argument word)
    | format :: rest =>
      let target ← targetOf argument
      return (.test (.printPieces (← formatOf format) (some target)), rest)

/-- Whether a word begins a condition; `first` says that none of its words stands in front. -/
def beginsCondition (first : Bool) (word : String) : Bool :=
  match word.toList with
  | '-' :: _ :: _ => true
  | ['('] => true
  | ['!'] => true
  | [')'] => !first
  | [','] => !first
  | _ => false

/-- The marks of words; `fuel` is at least their number, and `last` is the word of the mark before. -/
def marksOf : Nat → Option String → List String → FileWordStep (List FileMark)
  | fuel + 1, last, word :: rest => do
    if !beginsCondition false word then
      let isThere := (← liftM (m := Work) (entryAt .look word)).isOk
      throw (.misplaced word (if isThere then last else none))
    let (mark, rest) ← markAt word rest
    return mark :: (← marksOf fuel (some word) rest)
  | _, _, _ => return []

/-- The condition of words. -/
def conditionOf (words : List String) : FileWordStep FileCondition := do
  let marks ← marksOf words.length none words
  match FileCondition.read marks with
  | .error fault => refuse fault.message
  | .ok condition =>
    let has (test : FileTest → Bool) : Bool := marks.any fun
      | .test asked => test asked
      | _ => false
    if !(← get).choosesOrder && has (· matches .delete) && has (· matches .prune) then
      refuse ("The -delete action automatically turns on -depth, but -prune does nothing when " ++
        "-depth is in effect.  If you want to carry on anyway, just explicitly use the -depth " ++
        "option.")
    return condition

end FileWordStep
end JavaStubs.Host

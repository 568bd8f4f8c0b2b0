import JavaStubs.Host.EditScript
import JavaStubs.Host.Inputs

/-!
The editing of lines by a script: each line is read, all rules are applied to it, and what it has
become is printed. A rule can read further lines, keep one for later, or end the work.
-/
namespace JavaStubs.Host

open Work

/-- A line to edit: its text, whether its end is there, and the name of its file. -/
structure SourceLine where
  text : List Char
  ended : Bool
  name : String

/-- The lines of the text of a file. -/
def sourceLines (ending : Char) (name text : String) : List SourceLine :=
  let lines := Text.fields (· == ending) text.toList
  let isEnded := lines.getLast? = some []
  let whole := (if isEnded then lines.dropLast else lines)
  whole.zipIdx.map fun (line, place) => ⟨line, isEnded || place + 1 < whole.length, name⟩

/-- Where an editor stands. -/
structure Editor where
  line : List Char
  /-- Whether the end of the line is there. -/
  ended : Bool
  name : String
  held : List Char
  /-- Whether the text that is held came with the end of its line. -/
  heldEnded : Bool
  number : Nat
  /-- The lines that follow. -/
  rest : List SourceLine
  /-- What was printed, the latest piece first. -/
  printed : List String
  /-- The outputs behind whose last line an end is missing. -/
  unended : List (Option String)
  /-- What to do behind the line: to print a text, or the lines of a file, the latest first. -/
  pending : List (String ⊕ String)
  /-- The ranges of lines that have begun, by the places of their rules, and the last numbers of
  those that end at a line of a certain number. -/
  begun : List (Nat × Option Nat)
  /-- The places of rules whose ranges have ended and cannot begin again. -/
  passed : List Nat
  /-- The expression that was used last. -/
  pattern : Option Regex
  /-- Whether a replacement was made in the line. -/
  replaced : Bool
  /-- The lines that are left of files that are read line by line. -/
  files : List (String × List SourceLine)

/-- The ways in which an editor works. -/
structure EditWay where
  quiet : Bool
  ending : Char
  /-- The length of lines that tell a text without ambiguity. -/
  width : Nat
  rules : Array EditRule

/-- How the work on a line ends. -/
inductive EditEnd where
  | done
  | deleted
  | again
  | quit (shows : Bool) (code : Nat)
  | stop (code : Nat)

/-- A part of an editor's run, which fails if an expression is to be used again before any was
used. -/
abbrev Editing := ExceptT Unit (StateT Editor Work)

namespace Editing

/-! ## Printing -/

/-- Prints octets to the output, or to a file. -/
def put (target : Option String) (text : String) : Editing Unit := do
  match target with
  | none => modify fun editor => { editor with printed := text :: editor.printed }
  | some name =>
    let _ ← ExceptT.lift (StateT.lift (writeText name text true))
    return

def putWhole (target : Option String) (text : String) : Editing Unit := do
  if (← get).unended.contains target then
    put target "\n"
    modify fun editor => { editor with unended := editor.unended.filter (· != target) }
  put target text

/-- Prints a line, which may lack its end. -/
def putLine (way : EditWay) (target : Option String) (line : List Char) : Editing Unit := do
  let target := if target == some "/dev/stdout" then none else target
  let text := String.ofList line
  if (← get).ended then putWhole target (text.push way.ending)
  else
    putWhole target text
    modify fun editor => { editor with unended := target :: editor.unended }

/-- Does what is to be done behind the line. -/
def flush : Editing Unit := do
  for piece in (← get).pending.reverse do
    match piece with
    | .inl text => putWhole none text
    | .inr name =>
      let name := if name == "-" then "./-" else name
      if let .ok text ← ExceptT.lift (StateT.lift (textOf name)) then putWhole none text
  modify fun editor => { editor with pending := [] }

/-- A text without ambiguity, in lines of a length. -/
def listing (width : Nat) (text : List Char) : String :=
  let (lines, line) := text.foldl (fun (lines, line) c =>
    let shown := if c == '\\' then ['\\', '\\']
      else if ' ' ≤ c && c ≤ '~' then [c]
      else controlEscape c
    let shown := if c == '\n' then ['\\', 'n'] else shown
    if 0 < width && width - 1 < line.length + shown.length
    then ((line ++ ['\\']) :: lines, shown) else (lines, line ++ shown)) ([], [])
  String.join (((line ++ ['$']) :: lines).reverse.map fun line => String.ofList line ++ "\n")

/-! ## Choosing lines -/

/-- The expression of a pattern, which is the one used last if it has none. -/
def regexOf (pattern : EditPattern) : Editing Regex := do
  match pattern.regex <|> (← get).pattern with
  | some regex =>
    modify fun editor => { editor with pattern := some regex }
    return regex
  | none => throw ()

/-- The first text of a text that fits a pattern. -/
def find (pattern : EditPattern) (before text : List Char) : Editing (Option Regex.Match) := do
  let regex ← regexOf pattern
  return regex.searchFrom pattern.mode before text

def fits (address : LineAddress) : Editing Bool := do
  let editor ← get
  match address with
  | .number n => return editor.number = n
  | .every first step => return first ≤ editor.number && (editor.number - first) % step = 0
  | .last => return editor.rest.isEmpty
  | .fitting pattern => return (← find pattern [] editor.line).isSome

/-- Whether the rule at a place chooses the line. -/
def chosenBy (place : Nat) (rule : EditRule) : Editing Bool := do
  let number := (← get).number
  match rule.first, rule.second with
  | none, _ => return true
  | some first, none => fits first
  | some first, some second =>
    let close : Editing Unit := modify fun editor => { editor with
      begun := editor.begun.filter (·.1 != place)
      passed := place :: editor.passed }
    let begin_ (last : Option Nat) : Editing Unit := modify fun editor => { editor with
      begun := (place, last) :: editor.begun }
    let until_ (last : Nat) : Editing Bool := do
      if number < last then begin_ (some last) else close
      return true
    match (← get).begun.lookup place with
    | some (some last) =>
      if last ≤ number then close
      return number ≤ last
    | some none =>
      if let .at_ address := second then
        if ← fits address then close
      return true
    | none =>
      let isPassed := (← get).passed.contains place
      let starts ← match first with
        | .number 0 => pure (!isPassed && number = 1)
        | .number n =>
          let isOver : Bool := match second with
            | .at_ (.number last) => number ≠ n && last < number
            | _ => false
          pure (!isPassed && n ≤ number && !isOver)
        | first => fits first
      if !starts then return false
      match first, second with
      | .number 0, .at_ address =>
        if ← fits address then close else begin_ none
        return true
      | _, .at_ (.number last) => until_ last
      | _, .behind count => until_ (number + count)
      | _, .multiple n => until_ (if n = 0 then number else number / n * n + n)
      | _, .at_ _ =>
        begin_ none
        return true

/-! ## Replacing -/

/-- A character under the changes that hold for it. -/
def changedChar (lasting next : Option CaseChange) (c : Char) : Char :=
  match next, lasting with
  | some .upperNext, _ => c.toUpper
  | some .lowerNext, _ => c.toLower
  | _, some .upper => c.toUpper
  | _, some .lower => c.toLower
  | _, _ => c

/-- The text that takes the place of one that was found, under changes that last, and one for the
next character. -/
def replacement (found : Regex.Match) :
    Option CaseChange → Option CaseChange → List ReplacementPiece → List Char
  | _, _, [] => []
  | lasting, next, .text c :: more =>
    changedChar lasting next c :: replacement found lasting none more
  | lasting, next, .group number :: more =>
    let text := if number = 0 then found.text else (found.groups.lookup number).getD []
    match text with
    | [] => replacement found lasting next more
    | c :: rest =>
      changedChar lasting next c :: rest.map (changedChar lasting none) ++
        replacement found lasting none more
  | lasting, _, .change change :: more =>
    match change with
    | .upperNext => replacement found lasting (some change) more
    | .lowerNext => replacement found lasting (some change) more
    | .end_ => replacement found none none more
    | change => replacement found (some change) none more

/-- A line with texts that fit replaced, from the one with a number on, and whether there was one;
`fuel` is more than its length. -/
def substituted (regex : Regex) (how : Substitution) :
    Nat → Nat → Bool → List Char → List Char → List Char × Bool
  | 0, _, _, _, line => (line, false)
  | fuel + 1, number, afterMatch, before, line =>
    match regex.searchFrom how.pattern.mode before line with
    | none => (line, false)
    | some found =>
      let skipped := line.take (found.before.length - before.length)
      let isRepeat := afterMatch && found.text.isEmpty && skipped.isEmpty
      let counts := number ≤ 1 && !isRepeat
      let piece := if counts then replacement found none none how.new else found.text
      let stops := counts && !how.all
      let next := if isRepeat then number else number - 1
      let (more, later) : List Char × Bool := match stops, found.text, found.rest with
        | true, _, rest => (rest, false)
        | false, [], [] => ([], false)
        | false, [], c :: rest =>
          let (more, hit) := substituted regex how fuel next false (c :: found.before) rest
          (c :: more, hit)
        | false, text, rest =>
          substituted regex how fuel next true (text.reverse ++ found.before) rest
      (skipped ++ piece ++ more, counts || later)

def substitute (way : EditWay) (how : Substitution) : Editing Unit := do
  let regex ← regexOf how.pattern
  let line := (← get).line
  let (line, hit) := substituted regex how (line.length + 2) how.number false [] line
  if hit then
    modify fun editor => { editor with line, replaced := true }
    if how.shows then putLine way none line
    if let some name := how.target then putLine way (some name) line

/-! ## Reading on -/

/-- Reads the next line, behind the line or in its place; there may be none. -/
def readLine (way : EditWay) (joins : Bool) : Editing Bool := do
  match (← get).rest with
  | [] => return false
  | source :: rest =>
    flush
    modify fun editor => { editor with
      line := if joins then editor.line ++ way.ending :: source.text else source.text
      ended := source.ended
      name := source.name
      number := editor.number + 1
      replaced := false
      rest }
    return true

/-- The next line of a file that is read line by line. -/
def nextOf (way : EditWay) (name : String) : Editing (Option SourceLine) := do
  let lines ← match (← get).files.lookup name with
    | some lines => pure lines
    | none =>
      match ← ExceptT.lift (StateT.lift (textOf name)) with
      | .ok text => pure (sourceLines way.ending name text)
      | .error _ => pure []
  modify fun editor => { editor with
    files := (name, lines.drop 1) :: editor.files.filter (·.1 != name) }
  return lines.head?

/-! ## Rules -/

/-- The place of a label, and that behind all rules for the empty one. -/
def placeOf (way : EditWay) (label : String) : Nat :=
  if label.isEmpty then way.rules.size
  else (way.rules.findIdx? fun rule =>
    match rule.edit with
    | .mark other => other == label
    | _ => false).getD way.rules.size

/-- Applies an edit of the rule at a place. The result is the place to go on, or how the work on the
line ends. -/
def apply (way : EditWay) (place : Nat) (rule : EditRule) : Editing (Nat ⊕ EditEnd) := do
  let next : Nat ⊕ EditEnd := .inl (place + 1)
  let editor ← get
  let setLine (line : List Char) : Editing (Nat ⊕ EditEnd) := do
    modify fun editor => { editor with line }
    return next
  let first := editor.line.takeWhile (· != way.ending)
  match rule.edit with
  | .none => return next
  | .mark _ => return next
  | .block _ => return next
  | .jump label after =>
    match after with
    | none => return .inl (placeOf way label)
    | some wanted =>
      modify fun editor => { editor with replaced := false }
      return if editor.replaced == wanted then .inl (placeOf way label) else next
  | .substitute how =>
    substitute way how
    return next
  | .translate pairs => setLine (editor.line.map fun c => (pairs.lookup c).getD c)
  | .print =>
    putLine way none editor.line
    return next
  | .printFirst =>
    putWhole none ((String.ofList first).push way.ending)
    return next
  | .list width =>
    putWhole none (listing (width.getD way.width) editor.line)
    return next
  | .showNumber =>
    putWhole none s!"{editor.number}\n"
    return next
  | .showName =>
    putWhole none (editor.name ++ "\n")
    return next
  | .delete => return .inr .deleted
  | .deleteFirst =>
    if !editor.line.contains way.ending then return .inr .deleted
    modify fun editor => { editor with line := editor.line.drop (first.length + 1) }
    return .inr .again
  | .clear => setLine []
  | .quit shows code => return .inr (if shows then .quit true code else .stop code)
  | .append text =>
    modify fun editor => { editor with pending := .inl text :: editor.pending }
    return next
  | .insert text =>
    putWhole none text
    return next
  | .change text =>
    if rule.negated || !(editor.begun.any (·.1 == place)) then putWhole none text
    return .inr .deleted
  | .appendFile name =>
    modify fun editor => { editor with pending := .inr name :: editor.pending }
    return next
  | .appendLine name =>
    if let some line ← nextOf way name then
      let text := String.ofList line.text ++ "\n"
      modify fun editor => { editor with pending := .inl text :: editor.pending }
    return next
  | .write name =>
    putLine way (some name) editor.line
    return next
  | .writeFirst name =>
    putWhole (if name == "/dev/stdout" then none else some name) ((String.ofList first).push way.ending)
    return next
  | .next =>
    if editor.rest.isEmpty then return .inr (.quit true 0)
    if !way.quiet then putLine way none editor.line
    let _ ← readLine way false
    return next
  | .joinNext =>
    if editor.rest.isEmpty then return .inr (.quit true 0)
    let _ ← readLine way true
    return next
  | .hold =>
    modify fun editor => { editor with held := editor.line, heldEnded := editor.ended }
    return next
  | .holdMore =>
    modify fun editor => { editor with
      held := editor.held ++ way.ending :: editor.line
      heldEnded := editor.ended }
    return next
  | .fetch =>
    modify fun editor => { editor with line := editor.held, ended := editor.heldEnded }
    return next
  | .fetchMore =>
    modify fun editor => { editor with
      line := editor.line ++ way.ending :: editor.held
      ended := editor.heldEnded }
    return next
  | .exchange =>
    modify fun editor => { editor with
      line := editor.held
      ended := editor.heldEnded
      held := editor.line
      heldEnded := editor.ended }
    return next

/-- Applies the rules from a place on; `fuel` bounds the number of edits. -/
def applyFrom (way : EditWay) : Nat → Nat → Editing EditEnd
  | 0, _ => return .done
  | fuel + 1, place => do
    match way.rules[place]? with
    | none => return .done
    | some rule =>
      if (← chosenBy place rule) != rule.negated then
        match ← apply way place rule with
        | .inl next => applyFrom way fuel next
        | .inr ended => return ended
      else match rule.edit with
        | .block behind => applyFrom way fuel behind
        | _ => applyFrom way fuel (place + 1)

/-- The number of edits after which the work on a line is given up. -/
def patience : Nat := 1000000

/-- Edits all lines, and gives the code to end with, unless the lines came to their end; `fuel` is
more than the number of lines and of parts of lines to work on. -/
def run (way : EditWay) : Nat → Bool → Editing (Option Nat)
  | 0, _ => return none
  | fuel + 1, keeps => do
    if !keeps then
      if !(← readLine way false) then return none
    let show_ : Editing Unit := do
      if !way.quiet then putLine way none (← get).line
    match ← applyFrom way patience 0 with
    | .done =>
      show_
      flush
      run way fuel false
    | .deleted =>
      flush
      run way fuel false
    | .again =>
      flush
      run way fuel true
    | .quit shows code =>
      if shows then show_
      flush
      return some code
    | .stop code => return some code

/-- An editor in front of lines; behind some outputs the end of a line is missing. -/
def start (unended : List (Option String)) (lines : List SourceLine) : Editor where
  line := []
  ended := true
  name := "-"
  held := []
  heldEnded := true
  number := 0
  rest := lines
  printed := []
  unended := unended
  pending := []
  begun := []
  passed := []
  pattern := none
  replaced := false
  files := []

/-- What an editing of lines leaves. -/
structure Edited where
  output : String
  unended : List (Option String)
  /-- The code to end with, if a rule ends all work. -/
  code : Option Nat
  /-- Whether the work ended for lack of an expression to use again. -/
  failed : Bool

/-- Edits lines. -/
def edit (way : EditWay) (unended : List (Option String)) (lines : List SourceLine) :
    Work Edited := do
  let size := (lines.map fun line => line.text.length + 2).foldl (· + ·) 0
  let work : Editing (Option Nat) := run way (2 * size + 2) false
  let (result, editor) ← StateT.run (ExceptT.run work) (start unended lines)
  let output := String.join editor.printed.reverse
  match result with
  | .ok code => return ⟨output, editor.unended, code, false⟩
  | .error _ => return ⟨output, editor.unended, some 1, true⟩

end Editing

/-! ## The program -/

/-- A piece of a script: its text, and the name of its file if it comes from one. -/
structure ScriptPiece where
  text : String
  file : Option String

/-- The refusal of a script in words, by its piece and the number of characters left, or by the line
that it is about. -/
def refusalMessage (pieces : List ScriptPiece) (piece : Nat) (place : Nat ⊕ Nat)
    (fault : EditFault) : String :=
  let text := ((pieces[piece - 1]?).map ScriptPiece.text).getD ""
  match (pieces[piece - 1]?).bind ScriptPiece.file, place with
  | some name, .inl left =>
    let read := text.toList.take (text.length - left)
    let line := (read.filter (· == '\n')).length + 1
    s!"file {name} line {line}: {fault.message}"
  | some name, .inr line => s!"file {name} line {line}: {fault.message}"
  | none, place =>
    let number := ((pieces.take piece).filter (·.file.isNone)).length
    let char := match place with
      | .inl left => text.length - left
      | .inr _ => 0
    if fault == .regex .bareClass then fault.message
    else s!"-e expression #{number}, char {char}: {fault.message}"

/-- The rules of a script in pieces, and whether it asks for quiet; or why it is refused. -/
def readScript (extended : Bool) (pieces : List ScriptPiece) :
    Except (String × Int) (Array EditRule × Bool) := do
  let progress ← pieces.zipIdx.foldlM (fun progress (piece, place) =>
    match (takePiece extended (place + 1) progress).run piece.text.toList with
    | .ok (progress, _) => .ok progress
    | .error refusal =>
      .error (refusalMessage pieces (place + 1) (.inl refusal.left) refusal.fault, 1))
    (⟨[], [], false, false⟩ : ScriptProgress)
  if let (_, place) :: _ := progress.blocks then
    throw (refusalMessage pieces place.piece (.inr place.line) .openBlock, 1)
  let rules := progress.rules.reverse
  let labels := rules.filterMap fun rule => match rule.edit with
    | .mark label => some label
    | _ => none
  let missing := rules.findSome? fun rule => match rule.edit with
    | .jump label _ => if label.isEmpty || labels.contains label then none else some label
    | _ => none
  if let some label := missing then
    throw ("can't find label for jump to \x60" ++ label ++ "'", 4)
  return (rules.toArray, progress.quiet)

def writtenFiles (rules : Array EditRule) : List String :=
  let names := rules.toList.filterMap fun rule => match rule.edit with
    | .write name => some name
    | .writeFirst name => some name
    | .substitute how => how.target
    | _ => none
  (names.filter fun name => name != "/dev/stdout" && name != "/dev/stderr").eraseDups

def editOptions : OptionTable :=
  { options "nErisuz" "efl" [("quiet", 'n'), ("silent", 'n'), ("regexp-extended", 'E'),
      ("expression", 'e'), ("file", 'f'), ("in-place", 'i'), ("separate", 's'),
      ("null-data", 'z'), ("unbuffered", 'u'), ("line-length", 'l'), ("posix", 'u'),
      ("sandbox", 'u'), ("follow-symlinks", 'u')] with
    optional := ['i'] }

/-- Edits the lines of texts by a script. -/
def sed : Work Unit := do
  match editOptions.read (← get).call.arguments with
  | .error fault => complain fault.message 1
  | .ok given =>
    let named := given.options.filter fun (letter, _) => letter == 'e' || letter == 'f'
    let (scripts, files) := if named.isEmpty
      then ((given.operands.take 1).map fun text => ('e', text), given.operands.drop 1)
      else (named, given.operands)
    if scripts.isEmpty then fail 1
    else
      let pieces ← scripts.mapM fun (letter, text) => do
        if letter == 'e' then return some (⟨text, none⟩ : ScriptPiece)
        match ← textOf text with
        | .ok found => return some ⟨found, some text⟩
        | .error cause =>
          complain s!"couldn't open file {text}: {cause.wording}" 4
          return none
      if pieces.all Option.isSome then
        match readScript (given.has 'E' || given.has 'r') (pieces.filterMap id) with
        | .error (message, code) => complain message code
        | .ok (rules, isQuiet) =>
          let way : EditWay :=
            { quiet := isQuiet || given.has 'n'
              ending := if given.has 'z' then '\x00' else '\n'
              width := ((given.value? 'l').bind (·.toNat?)).getD 70
              rules }
          work given way files
where
  /-- Edits files as options ask for. -/
  work (given : Invocation) (way : EditWay) (files : List String) : Work Unit := do
    let failed ← (writtenFiles way.rules).filterMapM fun name => do
      match ← writeText name "" false with
      | .ok _ => return none
      | .error cause => return some (name, cause)
    match failed with
    | (name, cause) :: _ => complain s!"couldn't open file {name}: {cause.wording}" 4
    | [] =>
      if given.has 'i' then
        if files.isEmpty then complain "no input files" 4
        else inPlace way ((given.value? 'i').getD "") files
      else
        let (texts, halted) ← readable (orInput files)
        let groups := if given.has 's' then texts.map fun text => [text] else [texts]
        let code ← editAll way [] (groups.map fun texts =>
          texts.flatMap fun (name, text) => sourceLines way.ending name text)
        if let some name := halted then
          let name := inputName "stdin" name
          complain s!"read error on {name}: {OsCause.isDirectory.wording}" 4
        else if let some code := code then fail code
  /-- Edits groups of lines, each by itself. -/
  editAll (way : EditWay) (unended : List (Option String)) :
      List (List SourceLine) → Work (Option Nat)
    | [] => return none
    | lines :: rest => do
      let edited ← Editing.edit way unended lines
      say edited.output
      if edited.failed then
        complain "-e expression #1, char 0: no previous regular expression" 1
      if edited.code.isSome then return edited.code
      editAll way edited.unended rest
  /-- The texts of files with their names, up to one that is a directory. -/
  readable : List String → Work (List (String × String) × Option String)
    | [] => return ([], none)
    | name :: rest => do
      match ← textOf name with
      | .error .isDirectory => return ([], some name)
      | .ok text =>
        let (texts, halted) ← readable rest
        return ((name, text) :: texts, halted)
      | .error cause =>
        complain s!"can't read {name}: {cause.wording}" 2
        readable rest
  /-- The name under which the old text of a file is kept. -/
  keptName (ending name : String) : String :=
    let base := Text.afterLast '/' name.toList
    let start := name.toList.take (name.length - base.length)
    if ending.toList.contains '*' then
      let shaped := ending.toList.flatMap fun c => if c == '*' then base else [c]
      String.ofList (if shaped.contains '/' then shaped else start ++ shaped)
    else name ++ ending
  /-- Edits files in their places. -/
  inPlace (way : EditWay) (ending : String) : List String → Work Unit
    | [] => return
    | name :: rest => do
      match ← textOf name with
      | .error .isDirectory =>
        complain s!"couldn't edit {name}: not a regular file" 4
        inPlace way ending rest
      | .error cause =>
        complain s!"can't read {name}: {cause.wording}" 2
        inPlace way ending rest
      | .ok text =>
        let edited ← Editing.edit way [] (sourceLines way.ending name text)
        if !ending.isEmpty then
          let _ ← writeText (keptName ending name) text false
        let _ ← writeText name edited.output false
        match edited.code with
        | some code => fail code
        | none => inPlace way ending rest

end JavaStubs.Host

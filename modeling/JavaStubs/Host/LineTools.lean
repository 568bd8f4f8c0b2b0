import JavaStubs.Host.Inputs
import JavaStubs.Host.Regex

namespace JavaStubs.Host

open Work

/-! ## Showing -/

/-- A character in a form that can be seen; line ends and tabulators stay. -/
def visibleChar (c : Char) : List Char :=
  let n := c.toNat
  let low (n : Nat) : List Char :=
    if n < 32 then ['^', Char.ofNat (n + 64)] else if n = 127 then ['^', '?'] else [Char.ofNat n]
  if n = 9 ∨ n = 10 then [c] else if n < 128 then low n else ['M', '-'] ++ low (n - 128)

/-- A number at the right end of a column. -/
def inColumn (width n : Nat) : String :=
  let digits := toString n
  Text.repeated " " (width - digits.length) ++ digits

/-- How lines are shown. -/
structure LineView where
  numbers : Bool
  numbersOfText : Bool
  squeezes : Bool
  showsEnds : Bool
  showsTabs : Bool
  showsControls : Bool

def LineView.line (view : LineView) (text : String) : String :=
  String.ofList (text.toList.flatMap fun c =>
    if c == '\t' then (if view.showsTabs then ['^', 'I'] else [c])
    else if view.showsControls then visibleChar c else [c])

/-- Lines as they are shown, from a number on; the last one may be without an end. -/
def LineView.lines (view : LineView) : Nat → Bool → List String → String
  | _, _, [] => ""
  | _, _, [""] => ""
  | number, afterEmpty, text :: rest =>
    let ends := if rest.isEmpty then "" else (if view.showsEnds then "$" else "") ++ "\n"
    if view.squeezes && afterEmpty && text.isEmpty then view.lines number true rest
    else
      let counts := if view.numbersOfText then !text.isEmpty else view.numbers
      let front := if counts then inColumn 6 number ++ "\t" else ""
      front ++ view.line text ++ ends ++
        view.lines (if counts then number + 1 else number) text.isEmpty rest

/-- Prints texts one after another. -/
def cat : Work Unit :=
  withOptions (options "AbeEnstTuv" "" [("show-all", 'A'), ("number-nonblank", 'b'),
    ("show-ends", 'E'), ("number", 'n'), ("squeeze-blank", 's'), ("show-tabs", 'T'),
    ("show-nonprinting", 'v')]) 1 fun given => do
    let has (letters : List Char) := given.options.any fun (letter, _) => letters.contains letter
    let view : LineView :=
      { numbers := has ['n'], numbersOfText := has ['b'], squeezes := has ['s'],
        showsEnds := has ['A', 'e', 'E'], showsTabs := has ['A', 't', 'T'],
        showsControls := has ['A', 'e', 't', 'v'] }
    if given.options.isEmpty then forTexts given.operands 1 fun _ text => say text
    else
      let text ← joinedTexts given.operands 1
      say (view.lines 1 false (Text.fieldsOf '\n' text))

/-- The lines of a text with the marks at their ends; the last one may be without one. -/
def endedLines (mark : Char) (text : String) : List String :=
  let fields := Text.fieldsOf mark text
  let ended := fields.dropLast.map (·.push mark)
  match fields.getLast? with
  | some "" => ended
  | some last => ended ++ [last]
  | none => ended

/-! ## Other orders -/

/-- What stands between records. -/
inductive RecordMark where
  | text (mark : List Char)
  | fitting (regex : Regex)

/-- The mark at a place of a text, if there is one. -/
def RecordMark.at? (mark : RecordMark) (before rest : List Char) : Option (List Char) :=
  match mark with
  | .text mark => (Text.pastStart? mark rest).map fun _ => mark
  | .fitting regex =>
    ((regex.matchAt? .plain ⟨before, rest, []⟩).map Regex.Match.text).filter (!·.isEmpty)

/-- The pieces of a text between marks, each with the mark behind it; `fuel` is more than the length
of the text, and `piece` is the present one, the last character first. -/
def markedPieces (mark : RecordMark) : Nat → List Char → List Char → List Char →
    List (List Char × List Char)
  | 0, _, piece, rest => [(piece.reverse ++ rest, [])]
  | _ + 1, _, piece, [] => [(piece.reverse, [])]
  | fuel + 1, before, piece, c :: rest =>
    match mark.at? before (c :: rest) with
    | some found =>
      (piece.reverse, found) ::
        markedPieces mark fuel (found.reverse ++ before) [] ((c :: rest).drop found.length)
    | none => markedPieces mark fuel (c :: before) (c :: piece) rest

/-- The records of a text; a mark belongs to the record in front of it, or to the one behind. -/
def recordsOf (mark : RecordMark) (leads : Bool) (text : List Char) : List (List Char) :=
  let pieces := markedPieces mark (text.length + 1) [] [] text
  let records := if leads then
      List.zipWith (· ++ ·) ([] :: pieces.map Prod.snd) (pieces.map Prod.fst)
    else pieces.map fun (piece, mark) => piece ++ mark
  records.filter (!·.isEmpty)

/-- Prints the records of texts, the last one first. -/
def tac : Work Unit :=
  withOptions (options "br" "s" [("before", 'b'), ("regex", 'r'), ("separator", 's')]) 1
    fun given => do
    let text := (given.value? 's').getD "\n"
    let text := if text.isEmpty then "\x00" else text
    let mark := if given.has 'r' then (Regex.read ⟨false, true⟩ text).map RecordMark.fitting
      else .ok (.text text.toList)
    match mark with
    | .error fault => complain fault.message 1
    | .ok mark =>
      (orInput given.operands).forM fun name => do
        match ← textOf name with
        | .ok text =>
          let records := recordsOf mark (given.has 'b') text.toList
          say (String.join (records.reverse.map String.ofList))
        | .error .isDirectory =>
          let name := inputName "standard input" name
          complain s!"{shownName name}: read error: Invalid argument" 1
        | .error cause =>
          complain s!"failed to open {quotedName name} for reading: {cause.wording}" 1

/-- Prints the lines of texts, the last character first. -/
def rev : Work Unit :=
  withOptions (options "" "" []) 1 fun given =>
    (orInput given.operands).forM fun name => do
      match ← textOf name with
      | .error .isDirectory => complain s!"{name}: {OsCause.isDirectory.wording}" 1
      | .error cause => complain s!"cannot open {name}: {cause.wording}" 1
      | .ok text =>
        say (String.join ((endedLines '\n' text).map fun line =>
          if line.endsWith "\n" then
            String.ofList (line.toList.dropLast.reverse) ++ "\n"
          else String.ofList line.toList.reverse))

/-! ## Numbers of lines -/

/-- Which lines are numbered. -/
inductive NumberStyle where
  | all
  | filled
  | none
  | fitting (regex : Regex)

/-- How lines are numbered. -/
structure Numbering where
  header : NumberStyle
  body : NumberStyle
  footer : NumberStyle
  /-- The text that marks the sections of a page when it is repeated. -/
  mark : List Char
  start : Int
  step : Int
  /-- How many empty lines count as one. -/
  joined : Nat
  width : Nat
  separator : String
  format : String
  restarts : Bool

/-- A number in its column. -/
def Numbering.number (numbering : Numbering) (n : Int) : String :=
  let digits := toString n
  let room := numbering.width - digits.length
  match numbering.format with
  | "ln" => digits ++ Text.repeated " " room
  | "rz" =>
    let size := toString n.natAbs
    let sign := if n < 0 then "-" else ""
    sign ++ Text.repeated "0" (numbering.width - sign.length - size.length) ++ size
  | _ => Text.repeated " " room ++ digits

/-- Where the numbering of lines stands. -/
structure NumberProgress where
  style : NumberStyle
  next : Int
  /-- The empty lines that did not count yet. -/
  empty : Nat
  /-- The lines so far, the latest first. -/
  shown : List String

/-- The numbering behind one more line. -/
def Numbering.line (numbering : Numbering) (progress : NumberProgress) (line : String) :
    NumberProgress :=
  let marks := fun (count : Nat) => String.ofList (List.replicate count numbering.mark).flatten
  let section_ (style : NumberStyle) (restarts : Bool) : NumberProgress := { progress with
    style
    next := if restarts then numbering.start else progress.next
    shown := "\n" :: progress.shown }
  if !numbering.mark.isEmpty && line == marks 3 then section_ numbering.header numbering.restarts
  else if !numbering.mark.isEmpty && line == marks 2 then section_ numbering.body false
  else if !numbering.mark.isEmpty && line == marks 1 then section_ numbering.footer false
  else
    let plain (empty : Nat) : NumberProgress := { progress with
      empty
      shown := (Text.repeated " " (numbering.width + numbering.separator.length) ++ line ++ "\n") ::
        progress.shown }
    let numbered : NumberProgress := { progress with
      next := progress.next + numbering.step
      empty := 0
      shown := (numbering.number progress.next ++ numbering.separator ++ line ++ "\n") ::
        progress.shown }
    match progress.style with
    | .all =>
      if line.isEmpty && progress.empty + 1 < numbering.joined then plain (progress.empty + 1)
      else numbered
    | .filled => if line.isEmpty then plain progress.empty else numbered
    | .none => plain progress.empty
    | .fitting regex =>
      if (regex.search .plain line.toList).isSome then numbered else plain progress.empty

/-- Numbers the lines of texts. -/
def nl : Work Unit :=
  withOptions (options "p" "bvwsnidfhl" [("body-numbering", 'b'), ("starting-line-number", 'v'),
    ("number-width", 'w'), ("number-separator", 's'), ("number-format", 'n'),
    ("line-increment", 'i'), ("section-delimiter", 'd'), ("footer-numbering", 'f'),
    ("header-numbering", 'h'), ("join-blank-lines", 'l'), ("no-renumber", 'p')]) 1 fun given => do
    let style (letter : Char) (standard : String) : Except String NumberStyle :=
      let text := (given.value? letter).getD standard
      match text.toList with
      | ['a'] => .ok .all
      | ['t'] => .ok .filled
      | ['n'] => .ok .none
      | 'p' :: pattern =>
        match Regex.read ⟨false, true⟩ (String.ofList pattern) with
        | .ok regex => .ok (.fitting regex)
        | .error fault => .error fault.message
      | _ => .error ""
    let styles := [('h', "header", "n"), ('b', "body", "t"), ('f', "footer", "n")].map
      fun (letter, name, standard) => (letter, name, style letter standard)
    let numbers : List (Char × String × Int) :=
      [('v', "starting line number", 1), ('i', "line number increment", 1),
        ('l', "line number of blank lines", 1), ('w', "line number field width", 6)]
    let values := numbers.map fun (letter, name, standard) =>
      match given.value? letter with
      | none => (letter, name, "", some standard)
      | some text => (letter, name, text, text.toInt?)
    let value (letter : Char) : Int := ((values.find? (·.1 == letter)).bind (·.2.2.2)).getD 1
    let bad := values.find? fun (letter, _, _, number) =>
      number.isNone || ((letter == 'l' || letter == 'w') && number.any (· ≤ 0))
    let badStyle := styles.find? fun (_, _, style) => style matches .error _
    let format := (given.value? 'n').getD "rn"
    match bad, badStyle with
    | some (_, name, text, number), _ =>
      let range := if number.isSome then ": Numerical result out of range" else ""
      complain s!"invalid {name}: {quotedName text}{range}" 1
    | none, some (letter, name, _) =>
      let text := (given.value? letter).getD ""
      misuse s!"invalid {name} numbering style: {quotedName text}" 1
    | none, none =>
      if !(["ln", "rn", "rz"].contains format) then
        misuse s!"invalid line numbering format: {quotedName format}" 1
      else
        let styleOf (letter : Char) : NumberStyle :=
          match styles.find? (·.1 == letter) with
          | some (_, _, .ok style) => style
          | _ => .none
        let mark := ((given.value? 'd').getD "\\:").toList
        let numbering : Numbering :=
          { header := styleOf 'h'
            body := styleOf 'b'
            footer := styleOf 'f'
            mark := if mark.length = 1 then mark ++ [':'] else mark
            start := value 'v'
            step := value 'i'
            joined := (value 'l').toNat
            width := (value 'w').toNat
            separator := (given.value? 's').getD "\t"
            format
            restarts := !given.has 'p' }
        let text ← joinedTexts given.operands 1
        let progress := (linesOf text).foldl numbering.line
          ⟨numbering.body, numbering.start, 0, []⟩
        say (String.join progress.shown.reverse)

/-! ## Several texts -/

/-- Copies the input to files and to the output. -/
def tee : Work Unit :=
  withOptions (options "aip" "" [("append", 'a')]) 1 fun given => do
    let input ← takeInput
    let text := input.toOption.getD ""
    given.operands.forM fun name => do
      match ← writeText name text (given.has 'a') with
      | .ok _ => return
      | .error cause => complainOf name cause 1
    say text
    if let .error cause := input then complain s!"read error: {cause.wording}" 1

/-- The lines that stand beside one another in texts, as many as the longest text has. -/
def besides : Nat → List (List String) → List (List String)
  | 0, _ => []
  | fuel + 1, texts =>
    if texts.all List.isEmpty then []
    else texts.map (fun lines => lines.head?.getD "") :: besides fuel (texts.map (List.drop 1))

/-- Texts with separators between them that are used in turn. -/
def joinedInTurn (separators : List String) : Nat → List String → String
  | _, [] => ""
  | _, [text] => text
  | place, text :: rest =>
    text ++ (separators[place % separators.length]?).getD "" ++
      joinedInTurn separators (place + 1) rest

/-- Joins the lines of texts side by side, or those of each text behind one another. -/
def paste : Work Unit :=
  withOptions (options "sz" "d" [("serial", 's'), ("delimiters", 'd'), ("zero-terminated", 'z')]) 1
    fun given => do
    let text := ((given.value? 'd').getD "\t").toList
    if text.getLast? = some '\\' && (text.reverse.takeWhile (· == '\\')).length % 2 = 1 then
      let shown := String.ofList text
      complain s!"delimiter list ends with an unescaped backslash: {shown}" 1
    else
      let marks := if text.isEmpty then [""] else marksOf text
      let ending := if given.has 'z' then '\x00' else '\n'
      let names := orInput given.operands
      let shares := (names.filter (· == "-")).length
      let texts ← names.mapM fun name => do
        if (← get).code ≠ 0 && !given.has 's' then return []
        match ← textOf name with
        | .ok text =>
          let lines := Text.fieldsOf ending text
          return if lines.getLast? = some "" then lines.dropLast else lines
        | .error cause =>
          complainOf name cause 1
          return []
      if given.has 's' || (← get).code = 0 then
        let shared := (((names.zip texts).find? (·.1 == "-")).map Prod.snd).getD []
        let (_, dealt) := (names.zip texts).foldl (fun (place, dealt) (name, lines) =>
          if name == "-" && !given.has 's' then
            (place + 1, (((shared.zipIdx.filter fun (_, n) => n % shares = place).map Prod.fst)) ::
              dealt)
          else (place, lines :: dealt)) (0, ([] : List (List String)))
        let texts := dealt.reverse
        let rows := if given.has 's' then texts
          else besides ((texts.map List.length).foldl max 0) texts
        say (String.join (rows.map fun row => (joinedInTurn marks 0 row).push ending))
where
  /-- The separators that a text lists, with escapes. -/
  marksOf : List Char → List String
    | '\\' :: c :: rest =>
      let mark := match c with
        | '0' => ""
        | 'b' => "\x08"
        | 'f' => "\x0c"
        | 'n' => "\n"
        | 'r' => "\x0d"
        | 't' => "\t"
        | 'v' => "\x0b"
        | c => String.singleton c
      mark :: marksOf rest
    | c :: rest => String.singleton c :: marksOf rest
    | [] => []

/-! ## Long lines -/

def columnAfter (ofOctets : Bool) (column : Nat) (c : Char) : Nat :=
  if ofOctets then column + 1
  else match c with
    | '\x08' => column - 1
    | '\x0d' => 0
    | '\t' => column + 8 - column % 8
    | _ => column + 1

/-- Where the breaking of lines stands: the present line, the last character first, its width, and
the text in front, the last character first. -/
structure FoldProgress where
  line : List Char
  column : Nat
  done : List Char

/-- The text behind one more character; `fuel` bounds the number of breaks in front of it. -/
def foldChar (ofOctets atBlanks : Bool) (width : Nat) : Nat → FoldProgress → Char → FoldProgress
  | 0, progress, c => { progress with line := c :: progress.line }
  | fuel + 1, progress, c =>
    if c == '\n' then ⟨[], 0, c :: progress.line ++ progress.done⟩
    else
      let column := columnAfter ofOctets progress.column c
      if column ≤ width then { progress with line := c :: progress.line, column }
      else
        let kept := progress.line.takeWhile fun c => !(c == ' ' || c == '\t')
        if atBlanks && kept.length < progress.line.length then
          foldChar ofOctets atBlanks width fuel
            ⟨kept, kept.reverse.foldl (columnAfter ofOctets) 0,
              '\n' :: progress.line.drop kept.length ++ progress.done⟩ c
        else if progress.line.isEmpty then { progress with line := [c], column }
        else
          foldChar ofOctets atBlanks width fuel ⟨[], 0, '\n' :: progress.line ++ progress.done⟩ c

/-- Breaks long lines. -/
def fold : Work Unit := do
  modify fun working => { working with
    call := { working.call with arguments := working.call.arguments.map widthOption } }
  withOptions (options "bs" "w" [("bytes", 'b'), ("spaces", 's'), ("width", 'w')]) 1 fun given => do
    let text := (given.value? 'w').getD "80"
    match text.toNat? with
    | none => complain s!"invalid number of columns: {quotedName text}" 1
    | some 0 =>
      complain s!"invalid number of columns: {quotedName text}: Numerical result out of range" 1
    | some width =>
      forTexts given.operands 1 fun _ text =>
        let progress := text.toList.foldl
          (foldChar (given.has 'b') (given.has 's') width (width + 2)) ⟨[], 0, []⟩
        say (String.ofList (progress.line ++ progress.done).reverse)
where
  /-- A dash and a number, as an option for a width. -/
  widthOption (argument : String) : String :=
    match argument.toList with
    | '-' :: c :: rest =>
      if (c :: rest).all Char.isDigit then "-w" ++ String.ofList (c :: rest) else argument
    | _ => argument

end JavaStubs.Host

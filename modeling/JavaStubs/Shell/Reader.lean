import JavaStubs.Shell.Script

/-!
Reading scripts, from characters to tokens. A backslash before a line end joins the lines. A word that
stands for a text gives way to that text, in which it stands for nothing. What is nested in a word,
such as a script in parentheses, is read by procedures of the whole grammar that are handed in
(`Nested`).
-/
namespace JavaStubs.Shell

/-- A token of a script. -/
inductive Token where
  | endOfFile
  | newline
  | semicolon
  | ampersand
  | and
  | or
  | bar
  | opening
  | closing
  | endOfCase
  | redirection
  | word
  | keyword (name : String)
  deriving DecidableEq, Repr

namespace Token

def keywords : List String :=
  ["!", "case", "do", "done", "elif", "else", "esac", "fi", "for", "if", "in", "then", "until",
    "while", "\x7b", "\x7d"]

/-- What a token is called in messages. -/
def name : Token → String
  | .endOfFile => "end of file"
  | .newline => "newline"
  | .semicolon => "\";\""
  | .ampersand => "\"&\""
  | .and => "\"&&\""
  | .or => "\"||\""
  | .bar => "\"|\""
  | .opening => "\"(\""
  | .closing => "\")\""
  | .endOfCase => "\";;\""
  | .redirection => "redirection"
  | .word => "word"
  | .keyword name => "\"" ++ name ++ "\""

/-- Whether a token ends a list of commands. -/
def endsList : Token → Bool
  | .endOfFile => true
  | .closing => true
  | .endOfCase => true
  | .keyword name =>
    ["do", "done", "elif", "else", "esac", "fi", "then", "\x7d"].contains name
  | _ => false

end Token

/-- Why a script cannot be read, and the line where that is noticed. -/
structure Misread where
  line : Nat
  message : String
  deriving DecidableEq, Repr

/-- The beginning of a redirection, up to its word. -/
inductive Opening where
  | file (stream : Nat) (mode : FileMode)
  | duplicate (stream : Nat)
  | document (stream : Nat) (skipsTabs : Bool)
  deriving DecidableEq, Repr

/-- A document that is still to come. -/
structure Awaited where
  number : Nat
  /-- The line behind the document. -/
  mark : String
  skipsTabs : Bool
  /-- Whether the document is expanded. -/
  expands : Bool
  deriving DecidableEq, Repr

/-- Where reading stands. -/
structure Reader where
  text : List Char
  line : Nat
  /-- The last token is to be taken again. -/
  held : Bool
  last : Token
  word : Word
  /-- There are quotes in the last word. -/
  quoted : Bool
  opening : Option Opening
  awaited : List Awaited
  documents : List (Nat × Word)
  /-- The number of the next document. -/
  fresh : Nat
  /-- The line behind a document is read, in which nothing is expanded. -/
  marking : Bool
  /-- A document is read. -/
  inDocument : Bool
  /-- The words that stand for texts. -/
  aliases : List (String × String)
  /-- The words whose texts are being read, each with the number of characters behind its text. -/
  inUse : List (String × Nat)
  /-- The text of a word has just ended in blanks. -/
  leftBlank : Bool

/-- A reader of a text from a line on; documents are numbered from a number on. -/
def Reader.start (text : List Char) (line fresh : Nat) (aliases : List (String × String)) :
    Reader where
  text := text
  line := line
  held := false
  last := .newline
  word := []
  quoted := false
  opening := none
  awaited := []
  documents := []
  fresh := fresh
  marking := false
  inDocument := false
  aliases := aliases
  inUse := []
  leftBlank := false

/-- A number of steps in which a reader gets through its text. -/
def Reader.steps (reader : Reader) : Nat :=
  let room := 1 + (reader.aliases.map fun (_, text) => text.length).foldl (· + ·) 0
  (reader.text.length + 3) * (room * room)

/-- A part of reading. -/
abbrev Reading := ExceptT Misread (StateM Reader)

/-- How a list of commands ends: with its line, with what surrounds it, or, where it may be empty,
with what surrounds it. -/
inductive ListKind where
  | line
  | block
  | possibly
  deriving DecidableEq, Repr

/-- What parts of a word are read up to. -/
inductive Place where
  /-- The end of the word. -/
  | word
  /-- The second quotation mark. -/
  | quotes
  /-- The closing brace. -/
  | braces (quoted : Bool)
  /-- The second closing parenthesis. -/
  | sum
  /-- The end of the document. -/
  | document
  deriving DecidableEq, Repr

/-- What is looked for before a token: whether line ends are skipped, and whether words may be keywords
or stand for texts. -/
structure Wish where
  newlines : Bool
  keywords : Bool
  aliases : Bool
  deriving DecidableEq, Repr

namespace Wish

def plain : Wish := ⟨false, false, false⟩

/-- A token that may stand for a text. -/
def name : Wish := ⟨false, false, true⟩

/-- A token that may be a keyword. -/
def keyword : Wish := ⟨false, true, true⟩

/-- A token that may be a keyword and may stand in a later line. -/
def later : Wish := ⟨true, true, true⟩

/-- A token that may be a keyword and may stand in a later line, but stands for no text. -/
def pattern : Wish := ⟨true, true, false⟩

end Wish

/-- The procedures for what is nested. -/
structure Nested where
  list : ListKind → Reading (Option Command)
  command : Wish → Reading Command
  parts : Place → Reading Word
  /-- A list of commands and the parenthesis that closes it. -/
  enclosed : Reading (Option Command)

namespace Reading

def fail {α : Type} (message : String) : Reading α := do
  throw ⟨(← get).line, message⟩

/-- Repeats a step until it gives a result. -/
def repeated {σ α : Type} (step : σ → Reading (σ ⊕ α)) : Nat → σ → Reading α
  | 0, _ => fail "Too long"
  | fuel + 1, state => do
    match ← step state with
    | .inl state => repeated step fuel state
    | .inr result => return result

/-- Repeats a step, which takes a character or more each time, until it gives a result. -/
def steadily {σ α : Type} (step : σ → Reading (σ ⊕ α)) (state : σ) : Reading α := do
  repeated step (← get).steps state

/-! ## Characters -/

/-- A text without joined line ends at its start, and their number. -/
def pastJoins : List Char → Nat × List Char
  | '\\' :: '\n' :: rest =>
    let (count, text) := pastJoins rest
    (count + 1, text)
  | text => (0, text)

def peek : Reading (Option Char) :=
  modifyGet fun reader =>
    let (count, text) := pastJoins reader.text
    (text.head?, { reader with text := text, line := reader.line + count })

/-- Takes a character away, whatever it is. -/
def drop : Reading Unit := modify fun reader => { reader with text := reader.text.drop 1 }

def take : Reading (Option Char) := do
  let c ← peek
  drop
  return c

/-- Takes the next character, be it part of a join of lines. -/
def takeRaw : Reading (Option Char) :=
  modifyGet fun reader => (reader.text.head?, { reader with text := reader.text.drop 1 })

def giveBack (c : Option Char) : Reading Unit :=
  modify fun reader => { reader with text := c.toList ++ reader.text }

def countLines (chars : List Char) : Reading Unit :=
  modify fun reader => { reader with line := reader.line + chars.count '\n' }

/-- Takes characters as long as a condition holds. -/
def takeWhile (condition : Char → Bool) : Reading (List Char) :=
  steadily (fun taken => do
    match ← peek with
    | some c => if condition c then drop; return .inl (c :: taken) else return .inr taken.reverse
    | none => return .inr taken.reverse) []

/-! ## Parts of words -/

/-- Parts, the last one first, with a character behind them. -/
def withChar (quoted : Bool) (c : Char) : List Part → List Part
  | .text chars q :: rest =>
    if q == quoted then .text (chars.push c) q :: rest
    else .text (String.singleton c) quoted :: .text chars q :: rest
  | parts => .text (String.singleton c) quoted :: parts

/-- Parts, the last one first, with characters behind them. -/
def withChars (quoted : Bool) (chars : List Char) (parts : List Part) : List Part :=
  chars.foldl (fun parts c => withChar quoted c parts) parts

/-- Notes that there are quotes in the word. -/
def noteQuotes : Reading Unit := modify fun reader => { reader with quoted := true }

/-- Runs a reading of something nested, behind which the word goes on as before. -/
def apart {α : Type} (reading : Reading α) : Reading α := do
  let before ← get
  set { before with held := false, awaited := [], marking := false, inDocument := false }
  let result ← reading
  modify fun after => { after with
    held := false
    last := before.last
    awaited := before.awaited
    quoted := before.quoted
    marking := before.marking
    inDocument := before.inDocument }
  return result

/-- Runs a reading on a text of its own, which begins in a line, and behind which the word goes on
as before. -/
def onText {α : Type} (text : List Char) (line : Nat) (reading : Reading α) : Reading α := do
  let before ← get
  set { before with text, line, inUse := before.inUse.map fun (held : String × Nat) => (held.1, 0) }
  let result ← apart reading
  modify fun after => { after with text := before.text, line := before.line, inUse := before.inUse }
  return result

/-- The text up to the next backquote, without the backslashes that protect its characters. -/
def backquotedText (inQuotes : Bool) : Reading (List Char) :=
  steadily (fun taken => do
    match ← take with
    | none => fail "EOF in backquote substitution"
    | some '\x60' => return .inr taken.reverse
    | some '\\' =>
      match ← takeRaw with
      | none => fail "EOF in backquote substitution"
      | some c =>
        countLines [c]
        if "\\\x60$".toList.contains c || (inQuotes && c == '"') then return .inl (c :: taken)
        else return .inl (c :: '\\' :: taken)
    | some c =>
      countLines [c]
      return .inl (c :: taken)) []

/-- The part that begins with a backquote. -/
def backquoted (nested : Nested) (inQuotes : Bool) : Reading Part := do
  let text ← backquotedText inQuotes
  let script ← onText text 1 (nested.list .possibly)
  return .output script inQuotes

/-- Whether a character is a parameter that the shell itself sets, or a place among arguments. -/
def isSpecial (c : Char) : Bool := "!#$*?@-".toList.contains c || c.isDigit

/-- The part of a parameter in braces that has no meaning; all of it is skipped. -/
def unclear (nested : Nested) (quoted : Bool) : Reading Part := do
  let _ ← nested.parts (.braces quoted)
  return .parameter "" .unclear quoted

/-- The fallback that a character stands for. -/
def fallback? : Char → Option Fallback
  | '-' => some .value
  | '=' => some .assign
  | '?' => some .complain
  | '+' => some .alternative
  | _ => none

/-- The part of a parameter in braces from behind its name on, where `c` comes next. -/
def used (nested : Nested) (quoted : Bool) (name : String) (c : Option Char) : Reading Part := do
  let fallen (vacant : Bool) (c : Option Char) : Reading Part := do
    match c.bind fallback? with
    | some fallback =>
      let word ← nested.parts (.braces quoted)
      return .parameter name (.orElse fallback vacant word) quoted
    | none => unclear nested quoted
  match c with
  | some '\x7d' => return .parameter name .value quoted
  | some ':' => fallen true (← take)
  | some c =>
    if c == '%' || c == '#' then
      let next ← take
      let longest := next == some c
      if !longest then giveBack next
      let pattern ← nested.parts (.braces false)
      return .parameter name (.trimmed (c == '%') longest pattern) quoted
    else fallen false (some c)
  | none => unclear nested quoted

/-- The rest of a name or of a number that begins with a character. -/
def nameFrom (c : Char) : Reading String := do
  let rest ← takeWhile (if isNameStart c then isNamePart else Char.isDigit)
  return String.ofList (c :: rest)

/-- The part of the length of a parameter, up to its end. -/
def lengthOf (nested : Nested) (quoted : Bool) (name : String) : Reading Part := do
  let next ← take
  if next == some '\x7d' then return .parameter name .length quoted
  giveBack next
  unclear nested quoted

/-- The part of a parameter in braces. -/
def braced (nested : Nested) (quoted : Bool) : Reading Part := do
  match ← take with
  | none => unclear nested quoted
  | some c =>
    if isNameStart c || c.isDigit then used nested quoted (← nameFrom c) (← take)
    else if c == '\x7d' then
      giveBack (some c)
      unclear nested quoted
    else
      let next ← take
      if c == '#' && next.any (fun c => isNameStart c || c.isDigit) then
        lengthOf nested quoted (← nameFrom (next.getD '_'))
      else
        let last ← if c == '#' then peek else pure none
        if c == '#' && next != some '\x7d' && last == some '\x7d' then
          if next.any isSpecial then
            lengthOf nested quoted (String.ofList next.toList)
          else unclear nested quoted
        else if isSpecial c then used nested quoted (String.singleton c) next
        else
          giveBack next
          unclear nested quoted

/-- The part that begins with a dollar sign. -/
def dollar (nested : Nested) (quoted : Bool) : Reading Part := do
  if (← get).marking then return .text "$" quoted
  match ← peek with
  | some '(' =>
    drop
    if (← peek) == some '(' then
      drop
      return .number (← nested.parts .sum) quoted
    return .output (← apart nested.enclosed) quoted
  | some '\x7b' =>
    drop
    braced nested quoted
  | some c =>
    if isNameStart c then
      drop
      return .parameter (← nameFrom c) .value quoted
    else if isSpecial c then
      drop
      return .parameter (String.singleton c) .value quoted
    else return .text "$" quoted
  | none => return .text "$" quoted

/-- Parts, the last one first, with one more; characters are put together. -/
def withPart : Part → List Part → List Part
  | .text chars quoted, parts => withChars quoted chars.toList parts
  | part, parts => part :: parts

/-- Takes the characters up to the next single quotation mark. -/
def singleQuoted : Reading (List Char) := do
  let text := (← get).text
  let inside := text.takeWhile (· != '\'')
  countLines inside
  if inside.length == text.length then fail "Unterminated quoted string"
  modify fun reader => { reader with text := text.drop (inside.length + 1) }
  return inside

/-- Whether a character that is not quoted ends a word. -/
def endsWord (c : Char) : Bool := "\n<>();&| \t".toList.contains c

/-- Reads on outside of quotes, in braces or not. -/
def plainStep (nested : Nested) (inBraces : Bool) (parts : List Part) :
    Reading (List Part ⊕ Word) := do
  match ← peek with
  | none => if inBraces then fail "Missing '\x7d'" else return .inr parts.reverse
  | some c =>
    if !inBraces && endsWord c then return .inr parts.reverse
    drop
    match c with
    | '\\' =>
      let c ← takeRaw
      noteQuotes
      return .inl (withChar true (c.getD '\\') parts)
    | '\'' =>
      noteQuotes
      return .inl (withChars true (← singleQuoted) (.quotes :: parts))
    | '"' =>
      noteQuotes
      let inside ← nested.parts .quotes
      return .inl (inside.reverse ++ .quotes :: parts)
    | '\x60' =>
      if (← get).marking then return .inl (withChar false c parts)
      return .inl ((← backquoted nested false) :: parts)
    | '$' => return .inl (withPart (← dollar nested false) parts)
    | '\x7d' => if inBraces then return .inr parts.reverse else return .inl (withChar false c parts)
    | c =>
      countLines [c]
      return .inl (withChar false c parts)

/-- Reads on inside quotes or what counts as such; `state` holds the parts and, for braces, whether
quotes of their own are open. -/
def quotedStep (nested : Nested) (place : Place)
    (state : List Part × Bool) : Reading ((List Part × Bool) ⊕ Word) := do
  let (parts, isOpen) := state
  let inBraces := place matches .braces _
  let on (parts : List Part) : Reading ((List Part × Bool) ⊕ Word) := return .inl (parts, isOpen)
  match ← peek with
  | none =>
    if place == .document then return .inr parts.reverse
    else if inBraces && (← get).inDocument then fail "Missing '\x7d'"
    else fail "Unterminated quoted string"
  | some c =>
    drop
    match c with
    | '"' =>
      if place == .document then on (withChar true c parts)
      else if inBraces then return .inl (parts, !isOpen)
      else return .inr parts.reverse
    | '\\' =>
      match ← takeRaw with
      | none => on (withChar true '\\' parts)
      | some d =>
        countLines [d]
        if "\\\x60$".toList.contains d || (d == '"' && place != .document) ||
            (d == '\x7d' && inBraces) then on (withChar true d parts)
        else on (withChar true d (withChar true '\\' parts))
    | '\x60' =>
      if (← get).marking then on (withChar true c parts)
      else on ((← backquoted nested true) :: parts)
    | '$' => on (withPart (← dollar nested true) parts)
    | '\x7d' =>
      if inBraces && !isOpen then return .inr parts.reverse else on (withChar true c parts)
    | c =>
      countLines [c]
      on (withChar true c parts)

/-- Reads on in an expression; `state` holds the parts and the number of open parentheses. -/
def sumStep (nested : Nested) (state : List Part × Nat) :
    Reading ((List Part × Nat) ⊕ Word) := do
  let (parts, depth) := state
  match ← take with
  | none => fail "Missing '))'"
  | some c =>
    match c, depth with
    | '(', depth => return .inl (withChar true c parts, depth + 1)
    | ')', depth + 1 => return .inl (withChar true c parts, depth)
    | ')', 0 =>
      if (← peek) == some ')' then
        drop
        return .inr parts.reverse
      else return .inl (withChar true c parts, 0)
    | '\x60', depth => return .inl ((← backquoted nested true) :: parts, depth)
    | '$', depth => return .inl (withPart (← dollar nested true) parts, depth)
    | '\\', depth =>
      match ← takeRaw with
      | none => return .inl (withChar true '\\' parts, depth)
      | some d =>
        countLines [d]
        if "\\\x60$\"".toList.contains d then return .inl (withChar true d parts, depth)
        else return .inl (withChar true d (withChar true '\\' parts), depth)
    | c, depth =>
      countLines [c]
      return .inl (withChar true c parts, depth)

/-- The parts up to the end of a place. -/
def partsIn (nested : Nested) : Place → Reading Word
  | .word => steadily (plainStep nested false) []
  | .braces false => steadily (plainStep nested true) []
  | .sum => steadily (sumStep nested) ([], 0)
  | place => steadily (quotedStep nested place) ([], false)

/-! ## Documents -/

/-- The first line of a text, in which joins count as part of the line if it is expanded, and the
text behind its line end, if it has one. -/
def lineAt (expands : Bool) : List Char → List Char × Option (List Char)
  | [] => ([], none)
  | '\n' :: rest => ([], some rest)
  | c :: rest =>
    match c, expands, rest with
    | '\\', true, d :: more =>
      let (line, rest) := lineAt expands more
      (c :: d :: line, rest)
    | c, _, rest =>
      let (line, rest) := lineAt expands rest
      (c :: line, rest)

/-- The lines of a document, and the text behind it. -/
def documentAt (awaited : Awaited) : Nat → List Char → List Char × List Char
  | 0, text => ([], text)
  | fuel + 1, text =>
    if text.isEmpty then ([], []) else
    let text := if awaited.skipsTabs then text.dropWhile (· == '\t') else text
    let (line, rest) := lineAt awaited.expands text
    if String.ofList line == awaited.mark then ([], rest.getD [])
    else match rest with
      | none => (line, [])
      | some rest =>
        let (more, rest) := documentAt awaited fuel rest
        (line ++ '\n' :: more, rest)

/-- Reads a document. -/
def document (nested : Nested) (awaited : Awaited) : Reading Unit := do
  let text := (← get).text
  let (inside, rest) := documentAt awaited (text.length + 1) text
  let word ← if awaited.expands then onText inside (← get).line do
      modify fun reader => { reader with inDocument := true }
      nested.parts .document
    else pure [.text (String.ofList inside) true]
  countLines (text.take (text.length - rest.length))
  modify fun reader => { reader with
    text := rest
    documents := (awaited.number, word) :: reader.documents }

/-- Reads the documents that are still to come. -/
def awaitedDocuments (nested : Nested) : Reading Unit := do
  let awaited := (← get).awaited
  modify fun reader => { reader with awaited := [] }
  awaited.forM (document nested)

/-! ## Tokens -/

/-- Skips blanks and remarks. -/
def skipBlanks : Reading Unit :=
  steadily (fun _ => do
    match ← peek with
    | some ' ' => drop; return .inl ()
    | some '\t' => drop; return .inl ()
    | some '#' =>
      modify fun reader => { reader with text := reader.text.dropWhile (· != '\n') }
      return .inl ()
    | _ => return .inr ()) ()

/-- A token of one sign or of two equal ones. -/
def doubled (sign : Char) (one two : Token) : Reading Token := do
  drop
  if (← peek) == some sign then
    drop
    return two
  return one

/-- Reads the signs of a redirection of a stream, whose first one is still there. -/
def openingOf (stream : Option Nat) : Reading Opening := do
  if (← take) == some '>' then
    let stream := stream.getD 1
    match ← peek with
    | some '>' => drop; return .file stream .append
    | some '|' => drop; return .file stream .replace
    | some '&' => drop; return .duplicate stream
    | _ => return .file stream .output
  else
    let stream := stream.getD 0
    match ← peek with
    | some '<' =>
      drop
      if (← peek) == some '-' then
        drop
        return .document stream true
      return .document stream false
    | some '&' => drop; return .duplicate stream
    | some '>' => drop; return .file stream .both
    | _ => return .file stream .input

/-- The stream whose redirection a word begins that is followed by a sign for that. -/
def streamOf : Word → Option (Option Nat)
  | [] => some none
  | [.text chars false] =>
    match chars.toList with
    | [c] => if c.isDigit then some (some (c.toNat - '0'.toNat)) else none
    | _ => none
  | _ => none

/-- Reads a word, or the signs of a redirection. -/
def wordToken (nested : Nested) : Reading Token := do
  modify fun reader => { reader with quoted := false }
  let word ← partsIn nested .word
  let c ← peek
  if (c == some '<' || c == some '>') && !(← get).quoted then
    if let some stream := streamOf word then
      let opening ← openingOf stream
      modify fun reader => { reader with opening := opening }
      return .redirection
  modify fun reader => { reader with word := word }
  return .word

/-- Reads a token from the text. -/
def freshToken (nested : Nested) : Reading Token := do
  modify fun reader =>
    { reader with inUse := reader.inUse.filter fun (_, rest) => rest < reader.text.length }
  skipBlanks
  modify fun reader =>
    let inUse := reader.inUse.filter fun (_, rest) => rest < reader.text.length
    { reader with inUse, leftBlank := inUse.length < reader.inUse.length }
  match ← peek with
  | none => return .endOfFile
  | some c =>
    match c with
    | '\n' =>
      drop
      countLines [c]
      return .newline
    | '&' => doubled c .ampersand .and
    | '|' => doubled c .bar .or
    | ';' => doubled c .semicolon .endOfCase
    | '(' => drop; return .opening
    | ')' => drop; return .closing
    | _ => wordToken nested

/-- The next token, or nothing where a word gives way to the text that it stands for. -/
def tokenOrText (nested : Nested) (wish : Wish) : Reading (Option Token) := do
  let token ← if (← get).held then
      modifyGet fun reader => (reader.last, { reader with held := false, leftBlank := false })
    else freshToken nested
  let token ← if wish.newlines then
      steadily (fun token => do
        if token ≠ .newline then return .inr token
        awaitedDocuments nested
        return .inl (← freshToken nested)) token
    else pure token
  let reader ← get
  match token, reader.word, reader.quoted with
  | .word, [.text chars false], false =>
    if wish.keywords && Token.keywords.contains chars then return some (.keyword chars)
    else if (wish.aliases || reader.leftBlank) && !reader.inUse.any (·.1 == chars) then
      match reader.aliases.lookup chars with
      | none => return some token
      | some text =>
        let inUse := if text.isEmpty then reader.inUse
          else (chars, reader.text.length) :: reader.inUse
        set { reader with text := text.toList ++ reader.text, inUse }
        return none
    else return some token
  | token, _, _ => return some token

def token (nested : Nested) (wish : Wish) : Reading Token := do
  let token ← steadily (fun wish => do
    match ← tokenOrText nested wish with
    | some token => return .inr token
    | none => return .inl { wish with aliases := true }) wish
  modify fun reader => { reader with last := token }
  return token

def hold : Reading Unit := modify fun reader => { reader with held := true }

def unexpected {α : Type} (expected : Option Token) : Reading α := do
  let found := (← get).last.name
  match expected with
  | some token => fail s!"{found} unexpected (expecting {token.name})"
  | none => fail s!"{found} unexpected"

end Reading
end JavaStubs.Shell

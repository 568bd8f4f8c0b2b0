import JavaStubs.Shell.Reader

namespace JavaStubs.Shell
namespace Reading

/-- The commands that are part of the language, so that no function can have their name. -/
def specialNames : List String :=
  [".", ":", "break", "continue", "eval", "exec", "exit", "export", "local", "readonly", "return",
    "set", "shift", "times", "trap", "unset"]

/-- Reads a token that has to come. -/
def expect (nested : Nested) (wish : Wish) (expected : Token) : Reading Unit := do
  if (← token nested wish) ≠ expected then unexpected (some expected)

/-- Reads a list of commands that cannot be empty. -/
def block (nested : Nested) : Reading Command := return (← nested.list .block).getD .nothing

/-! ## Redirections -/

/-- Reads the word of a redirection whose signs were read. -/
def redirection (nested : Nested) : Reading Redirection := do
  let opening := (← get).opening.getD (.duplicate 0)
  let marks := opening matches .document _ _
  modify fun reader => { reader with marking := marks }
  let found ← token nested .plain
  modify fun reader => { reader with marking := false }
  if found ≠ .word then unexpected none
  let word := (← get).word
  match opening with
  | .file stream mode => return .file stream mode word
  | .duplicate stream => return .duplicate stream word
  | .document stream skipsTabs =>
    let number := (← get).fresh
    let mark := String.join (word.map fun
      | .text chars _ => chars
      | _ => "")
    modify fun reader => { reader with
      fresh := number + 1
      awaited := reader.awaited ++ [⟨number, mark, skipsTabs, !reader.quoted⟩] }
    return .document stream number

def redirections (nested : Nested) : Reading (List Redirection) :=
  steadily (fun done => do
    if (← token nested .keyword) == .redirection then
      return .inl ((← redirection nested) :: done)
    hold
    return .inr done.reverse) []

/-! ## Simple commands -/

/-- Reads the body of a function, whose name and opening parenthesis were read. -/
def functionBody (nested : Nested) (name : Word) : Reading Command := do
  expect nested .plain .closing
  match name with
  | [.text chars false] =>
    if !isName chars || specialNames.contains chars then fail "Bad function name"
    let line := (← get).line
    return .define line chars (← nested.command .later)
  | _ => fail "Bad function name"

/-- What was read of a simple command, the latest first. -/
structure Gathered where
  assignments : List Word
  words : List Word
  redirections : List Redirection

/-- Reads a simple command, whose first token was read. -/
def simple (nested : Nested) : Reading Command := do
  let line := (← get).line
  steadily (fun done => do
    match ← token nested (if done.words.isEmpty then .name else .plain) with
    | .word =>
      let word := (← get).word
      if done.words.isEmpty && (assignment? word).isSome then
        return .inl { done with assignments := word :: done.assignments }
      return .inl { done with words := word :: done.words }
    | .redirection =>
      let next ← redirection nested
      return .inl { done with redirections := next :: done.redirections }
    | found =>
      match found, done with
      | .opening, ⟨[], [name], []⟩ => return .inr (← functionBody nested name)
      | _, _ =>
        hold
        return .inr (.simple line done.assignments.reverse done.words.reverse
          done.redirections.reverse)) (⟨[], [], []⟩ : Gathered)

/-! ## Compound commands -/

/-- Reads the rest of a condition, behind its test. -/
def branches (nested : Nested) : Nat → Command → Reading Command
  | 0, _ => fail "Too long"
  | fuel + 1, test => do
    expect nested .plain (.keyword "then")
    let first ← block nested
    match ← token nested .plain with
    | .keyword "elif" =>
      let next ← block nested
      return .conditional test first (some (← branches nested fuel next))
    | .keyword "else" =>
      let second ← block nested
      return .conditional test first (some second)
    | _ =>
      hold
      return .conditional test first none

/-- Reads the words of a loop, up to their end. -/
def loopWords (nested : Nested) : Reading (List Word) :=
  steadily (fun words => do
    match ← token nested .plain with
    | .word => return .inl ((← get).word :: words)
    | .newline => return .inr words.reverse
    | .semicolon => return .inr words.reverse
    | _ => unexpected none) []

/-- Reads a loop over words. -/
def each (nested : Nested) (line : Nat) : Reading Command := do
  let found ← token nested .plain
  let name ← match found, (← get).quoted, (← get).word with
    | .word, false, [.text chars false] =>
      if isName chars then pure chars else fail "Bad for loop variable"
    | _, _, _ => fail "Bad for loop variable"
  let words ← match ← token nested .later with
    | .keyword "in" => loopWords nested
    | .semicolon => pure [[.parameter "@" .value true]]
    | _ =>
      hold
      pure [[.parameter "@" .value true]]
  expect nested .later (.keyword "do")
  return .each line name words (← block nested)

/-- Reads the patterns of a case, of which the first was read, up to the parenthesis. -/
def patterns (nested : Nested) : Reading (List Word) :=
  steadily (fun done => do
    let done := (← get).word :: done
    if (← token nested .plain) == .bar then
      let _ ← token nested .plain
      return .inl done
    if (← get).last ≠ .closing then unexpected (some .closing)
    return .inr done.reverse) []

/-- Reads the cases of a choice, up to its end. -/
def cases_ (nested : Nested) : Reading (List (List Word × Option Command)) :=
  steadily (fun done => do
    let found ← token nested .pattern
    if found == .keyword "esac" then return .inr done.reverse
    if found == .opening then let _ ← token nested .plain
    let patterns ← patterns nested
    let done := (patterns, ← nested.list .possibly) :: done
    match ← token nested .later with
    | .keyword "esac" => return .inr done.reverse
    | .endOfCase => return .inl done
    | _ => unexpected (some .endOfCase)) []

def choice (nested : Nested) (line : Nat) : Reading Command := do
  expect nested .plain .word
  let word := (← get).word
  expect nested .later (.keyword "in")
  return .choice line word (← cases_ nested)

def redirectedBy (line : Nat) (command : Command) (redirections : List Redirection) : Command :=
  if redirections.isEmpty then command else .redirected line command redirections

/-- Reads a command. -/
def commandIn (nested : Nested) (wish : Wish) : Reading Command := do
  let line := (← get).line
  let ended (command : Command) (last : Token) : Reading Command := do
    expect nested .plain last
    return redirectedBy line command (← redirections nested)
  match ← token nested wish with
  | .word =>
    hold
    simple nested
  | .redirection =>
    hold
    simple nested
  | .opening => ended (.subshell line (← block nested)) .closing
  | .keyword "\x7b" => ended (← block nested) (.keyword "\x7d")
  | .keyword "if" =>
    let test ← block nested
    ended (← branches nested ((← get).text.length + 1) test) (.keyword "fi")
  | .keyword "while" =>
    let test ← block nested
    expect nested .plain (.keyword "do")
    ended (.loop false test (← block nested)) (.keyword "done")
  | .keyword "until" =>
    let test ← block nested
    expect nested .plain (.keyword "do")
    ended (.loop true test (← block nested)) (.keyword "done")
  | .keyword "for" => ended (← each nested line) (.keyword "done")
  | .keyword "case" =>
    let command ← choice nested line
    return redirectedBy line command (← redirections nested)
  | _ => unexpected none

/-! ## Lists -/

/-- Reads commands with bars between them. -/
def pipeline (nested : Nested) (wish : Wish) : Reading Command := do
  let isNegated := (← token nested wish) == .keyword "!"
  if !isNegated then hold
  let first ← nested.command (if isNegated then .keyword else .plain)
  let commands ← steadily (fun commands => do
    if (← token nested .plain) == .bar then
      return .inl ((← nested.command .later) :: commands)
    hold
    return .inr commands.reverse) [first]
  let command := match commands with
    | [command] => command
    | commands => .pipeline commands
  return if isNegated then .negated command else command

/-- Reads pipelines of which one depends on another. -/
def alternatives (nested : Nested) : Reading Command := do
  steadily (fun first => do
    match ← token nested .plain with
    | .and => return .inl (.both first (← pipeline nested .later))
    | .or => return .inl (.either first (← pipeline nested .later))
    | _ =>
      hold
      return .inr first) (← pipeline nested .plain)

def following (before : Option Command) (command : Command) : Command :=
  match before with
  | some before => .sequence before command
  | none => command

/-- Reads a list of commands. Nothing is read where a line is empty or the text has ended. -/
def listIn (nested : Nested) (kind : ListKind) : Reading (Option Command) :=
  steadily (fun (done, mayEnd) => do
    let found ← token nested (if kind = .line then .keyword else .later)
    if found == .newline || found == .endOfFile then
      awaitedDocuments nested
      if found == .endOfFile then hold
      return .inr done
    hold
    if mayEnd && found.endsList then return .inr done
    let line := (← get).line
    let command ← alternatives nested
    let next ← token nested .plain
    let done := some (following done (if next == .ampersand then .background line command else command))
    match next with
    | .endOfFile =>
      awaitedDocuments nested
      hold
      return .inr done
    | .newline =>
      hold
      return .inl (done, kind != .line)
    | .semicolon => return .inl (done, kind != .line)
    | .ampersand => return .inl (done, kind != .line)
    | _ =>
      if kind = .line then unexpected none
      hold
      return .inr done) ((none : Option Command), kind == .possibly)

/-- Reads a list and the parenthesis that closes it. -/
def enclosedIn (nested : Nested) : Reading (Option Command) := do
  let script ← nested.list .possibly
  expect nested .plain .closing
  return script

/-- The procedures for what is nested to a depth. -/
def grammar : Nat → Nested
  | 0 => ⟨fun _ => fail "Too deep", fun _ => fail "Too deep", fun _ => fail "Too deep",
      fail "Too deep"⟩
  | depth + 1 =>
    let nested := grammar depth
    ⟨listIn nested, commandIn nested, partsIn nested, enclosedIn nested⟩

def depth : Nat := 1000

/-- Reads the commands of a line, and of as many more as they go on. Nothing is read of an empty
line; at the end the last token is the end of the text. -/
def line : Reading (Option Command) := do
  modify fun reader => { reader with held := false, awaited := [] }
  (grammar depth).list .line

/-- Reads a text that is expanded as if it stood in quotes; no script can be part of it. -/
def quotedText : Reading Word := do
  modify fun reader => { reader with inDocument := true }
  let nested := grammar depth
  let noScript {α : Type} : Reading α :=
    fail s!"{Token.endOfFile.name} unexpected (expecting {Token.closing.name})"
  let word ← partsIn { nested with enclosed := noScript } .document
  return word.filter fun
    | .output _ _ => false
    | _ => true

def hasEnded : Reading Bool := return (← get).last == .endOfFile

end Reading
end JavaStubs.Shell

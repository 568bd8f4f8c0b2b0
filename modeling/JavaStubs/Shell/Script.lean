import JavaStubs.Text.Words

/-!
Scripts as they are read. A word is made of parts, each of which is expanded on its own; a part
remembers whether it stands in quotes. The text of a document that a redirection asks for comes
behind the line of the redirection, so there it is only named by its number.
-/
namespace JavaStubs.Shell

/-- What is done where a parameter is not set. -/
inductive Fallback where
  /-- A word takes its place. -/
  | value
  /-- A word takes its place, and becomes its value. -/
  | assign
  /-- It is an error, with a word as its message. -/
  | complain
  /-- Nothing takes its place, and a word takes the place of a value. -/
  | alternative
  deriving DecidableEq, Repr

/-- The kind of a file that a redirection opens. -/
inductive FileMode where
  | input
  | output
  /-- Like output, where files must not be replaced otherwise. -/
  | replace
  | append
  | both
  deriving DecidableEq, Repr

mutual

/-- A part of a word. -/
inductive Part where
  | text (chars : String) (quoted : Bool)
  /-- The beginning of something in quotes, which makes a word even of nothing. -/
  | quotes
  | parameter (name : String) (use : Use) (quoted : Bool)
  /-- What a script prints. -/
  | output (script : Option Command) (quoted : Bool)
  /-- The value of an expression. -/
  | number (expression : List Part) (quoted : Bool)

/-- What is taken of a parameter. -/
inductive Use where
  | value
  | length
  /-- The value, unless it is not set, or, for `vacant`, is empty. -/
  | orElse (fallback : Fallback) (vacant : Bool) (word : List Part)
  /-- The value without what fits a pattern at one of its ends. -/
  | trimmed (atEnd longest : Bool) (pattern : List Part)
  /-- Something that has no meaning. -/
  | unclear

/-- A redirection of one of the numbered streams of a command. -/
inductive Redirection where
  | file (stream : Nat) (mode : FileMode) (name : List Part)
  | duplicate (stream : Nat) (source : List Part)
  | document (stream number : Nat)

/-- A command, with the number of the line that it stands in where it counts. -/
inductive Command where
  | simple (line : Nat) (assignments words : List (List Part)) (redirections : List Redirection)
  | pipeline (commands : List Command)
  | negated (command : Command)
  | both (first second : Command)
  | either (first second : Command)
  | sequence (first second : Command)
  | background (line : Nat) (command : Command)
  | subshell (line : Nat) (command : Command)
  | redirected (line : Nat) (command : Command) (redirections : List Redirection)
  | conditional (test first : Command) (second : Option Command)
  /-- Runs a command again and again, as long as a test succeeds, or for `inverse` fails. -/
  | loop (inverse : Bool) (test body : Command)
  | each (line : Nat) (name : String) (words : List (List Part)) (body : Command)
  | choice (line : Nat) (word : List Part) (cases : List (List (List Part) × Option Command))
  | define (line : Nat) (name : String) (body : Command)

end

/-- A word. -/
abbrev Word := List Part

def Command.nothing : Command := .simple 0 [] [] []

instance : Inhabited Command := ⟨.nothing⟩

/-- Whether a character can begin a name. -/
def isNameStart (c : Char) : Bool := c == '_' || c.isAlpha

/-- Whether a character can be part of a name. -/
def isNamePart (c : Char) : Bool := c == '_' || c.isAlphanum

def isName (text : String) : Bool :=
  match text.toList with
  | c :: rest => isNameStart c && rest.all isNamePart
  | [] => false

/-- The name that a word begins to assign to, and the word behind it. -/
def assignment? : Word → Option (String × Word)
  | .text chars false :: rest =>
    let (name, value) := Text.cutAt (· == '=') chars.toList
    if isName (String.ofList name) && chars.toList.contains '=' then
      some (String.ofList name,
        if value.isEmpty then rest else .text (String.ofList value) false :: rest)
    else none
  | _ => none

end JavaStubs.Shell

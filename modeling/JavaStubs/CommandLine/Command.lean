import JavaStubs.CommandLine.Arguments
import JavaStubs.Value.Basic

/-!
The commands of the program: writing the source file of an implementation, and building the
archive with it. A command line that names neither, lacks something or says too much is refused
with a report of one line.
-/
namespace JavaStubs

/-- What a command makes. -/
inductive Product where
  /-- The source file below a root. -/
  | source (root : Given)
  /-- The archive at a path. -/
  | archive (path : Given)
  deriving DecidableEq, Repr

/-- A command. -/
structure Command where
  type : String
  product : Product
  classpath : List Given
  documents : List Given
  javac : Option Given
  javap : Option Given
  suffix : Option Given
  journalDir : Option Given
  verbose : Bool
  deriving DecidableEq, Repr

/-- The refusal of a command line, with the name of the command that refuses it. -/
structure CommandFault where
  program : String
  fault : ArgumentFault
  deriving DecidableEq, Repr

def CommandFault.message (refusal : CommandFault) : String :=
  s!"{refusal.program}: error: {refusal.fault.message}"

namespace Command

def program : String := "implementor"

def names : List String := ["source", "jar"]

/-- The options in front of a command. -/
def topGrammar : Grammar := [.help]

/-- The options that both commands have. -/
def commonOptions : Grammar :=
  [.help, ⟨["--classpath", "-cp"], true⟩, ⟨["--descriptor"], true⟩, ⟨["--javac"], true⟩,
   ⟨["--javap"], true⟩, ⟨["--suffix"], true⟩, ⟨["--journal-dir"], true⟩,
   ⟨["--verbose", "-v"], false⟩]

def grammar (name : String) : Grammar :=
  commonOptions ++ [if name == "jar" then ⟨["--jar"], true⟩ else ⟨["--out"], true⟩]

/-- The parts of a class path given in pieces; empty parts are left out. -/
def splitClasspath (values : List String) : List String :=
  (values.flatMap (Text.fieldsOf ':')).filter (!·.isEmpty)

/-- The command of a name that arguments describe, if nothing is missing. -/
def ofArguments (name : String) (arguments : Arguments) : Except ArgumentFault Command :=
  let archive := arguments.valueOf? "--jar"
  let missing :=
    (if arguments.subject.isNone then ["interface"] else []) ++
      (if name == "jar" && archive.isNone then ["--jar"] else [])
  if missing.isEmpty then .ok
    { type := arguments.subject.getD ""
      product :=
        if name == "jar" then .archive (archive.getD (some ""))
        else .source ((arguments.valueOf? "--out").getD (some "."))
      classpath := arguments.valuesOf "--classpath"
      documents := arguments.valuesOf "--descriptor"
      javac := arguments.valueOf? "--javac"
      javap := arguments.valueOf? "--javap"
      suffix := arguments.valueOf? "--suffix"
      journalDir := arguments.valueOf? "--journal-dir"
      verbose := arguments.has "--verbose" }
  else .error (.missing missing)

/-- The command with a name that the texts behind it describe, and what was not recognised. -/
def parseNamed (name : String) (texts : List String) :
    Except CommandFault (Command × List String) :=
  if names.contains name then
    let read := do
      let arguments ← (grammar name).parse texts
      return (← ofArguments name arguments, arguments.extras)
    read.mapError fun fault => ⟨program ++ " " ++ name, fault⟩
  else .error ⟨program, .noChoice "command" name names⟩

/-- The options in front of the command: what is not recognised among them, and the texts from the
command on. -/
def front : List Token → Except ArgumentFault (List String × List String)
  | .option text none _ _ :: rest => do
    let (extras, texts) ← front rest
    return (text :: extras, texts)
  | .option _ (some spec) name carried :: rest => do
    let (arguments, _) ← topGrammar.takeOption .none spec name carried rest
    let (extras, texts) ← front rest
    return (arguments.extras ++ extras, texts)
  | [.separator] => .ok (["--"], [])
  | tokens => .ok ([], tokens.map Token.text)

/-- The command that a command line describes. -/
def parse (texts : List String) : Except CommandFault Command := do
  let top {α : Type} : Except ArgumentFault α → Except CommandFault α :=
    Except.mapError fun fault => ⟨program, fault⟩
  let (extras, texts) ← top (topGrammar.tokens texts >>= front)
  match texts with
  | [] => throw ⟨program, .missing ["command"]⟩
  | name :: texts =>
    let (command, more) ← parseNamed name texts
    if extras.isEmpty && more.isEmpty then return command
    else throw ⟨program, .unrecognised (extras ++ more)⟩

/-- What an option is given, as a setting: nothing given is an empty list. -/
def valueOf : Given → Value
  | some text => .text text
  | none => .list []

/-- The settings that a command overrides. -/
def overrides (command : Command) : Fields :=
  let given (name : String) (given : Option Given) : Fields :=
    given.toList.map fun given => (name, valueOf given)
  given "javac" command.javac ++ given "javap" command.javap ++
    given "impl_suffix" command.suffix ++
    (match command.journalDir with
      | some directory => [("journal_enabled", .boolean true), ("journal_dir", valueOf directory)]
      | none => [])

end Command
end JavaStubs

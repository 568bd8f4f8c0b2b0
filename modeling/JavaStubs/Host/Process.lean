import JavaStubs.Files.Disk
import JavaStubs.Tool.Outcome
import JavaStubs.Text.Utf8

/-!
Programs of a host. A program is called with a name, arguments, an environment and an input, works
on a disk, and ends with a code; what it prints goes to its output or to its error output, and the
order of the two counts. All texts that programs deal with are octet texts.
-/
namespace JavaStubs.Host

/-- A piece of what a program prints. -/
inductive Piece where
  | out (text : String)
  | err (text : String)
  deriving DecidableEq, Repr

/-- What an input comes from. -/
inductive Origin where
  /-- Something that only gives octets. -/
  | stream
  /-- A file of a number of bytes. -/
  | file (size : Nat)
  /-- A directory, which cannot be read. -/
  | directory
  deriving DecidableEq, Repr

namespace Origin

/-- The number of bytes of the file that an input comes from. -/
def size? : Origin → Option Nat
  | .file size => some size
  | _ => none

end Origin

/-- What a program is called with. -/
structure Call where
  name : String
  arguments : List String
  environment : Environment
  input : String
  origin : Origin

/-- What a run of a program leaves. A negative code is that of the signal which ended it. -/
structure Finish where
  code : Int
  printed : List Piece
  /-- The input that was not taken. -/
  rest : String
  disk : Disk

/-- A way to start the program at a path. -/
abbrev Starter := String → Call → Disk → Except OsCause Finish

/-- The refusal to start a file that is no program of any kind. -/
def noProgram : OsCause := .other 8 "Exec format error"

/-- Where a run of a program stands. -/
structure Working where
  call : Call
  disk : Disk
  /-- What was printed, the latest piece first. -/
  printed : List Piece
  input : String
  code : Int

/-- A part of a program's run. -/
abbrev Work := StateM Working

def Work.finish (work : Work Unit) (call : Call) (disk : Disk) : Finish :=
  let (_, after) := work.run ⟨call, disk, [], call.input, 0⟩
  ⟨after.code, after.printed.reverse, after.input, after.disk⟩

namespace Work

def say (text : String) : Work Unit :=
  modify fun working => { working with printed := .out text :: working.printed }

def sayError (text : String) : Work Unit :=
  modify fun working => { working with printed := .err text :: working.printed }

def fail (code : Int) : Work Unit := modify fun working => { working with code := code }

/-- Prints a line that begins with the program's name to the error output, and fails. -/
def complain (message : String) (code : Int) : Work Unit := do
  sayError s!"{(← get).call.name}: {message}\n"
  fail code

/-- Takes all of the input, if it can be read. -/
def takeInput : Work (Except OsCause String) :=
  modifyGet fun working =>
    if working.call.origin = .directory then (.error .isDirectory, working)
    else (.ok working.input, { working with input := "" })

def onDisk {α : Type} (job : FileJob α) : Work (Except FileFault α) :=
  modifyGet fun working =>
    let (result, disk) := job.run working.disk
    (result, { working with disk := disk })

end Work

/-- The texts of lines; a line end at the very end begins no further line. -/
def linesOf (text : String) : List String :=
  let found := Text.fieldsOf '\n' text
  if found.getLast? = some "" then found.dropLast else found

/-! ## Names in messages -/

/-- Whether a character has to be quoted for a command line; some have to only at the start, or
when they stand alone. -/
def needsQuotes (place length : Nat) (c : Char) : Bool :=
  if c == '\x7b' || c == '\x7d' then length == 1
  else if c == '#' || c == '~' then place == 0
  else c.toNat < 0x21 || 0x7E < c.toNat || "!\"$&'()*:;<=>?[\\^`|".toList.contains c

/-- Whether a character has no graphic form. -/
def isControl (c : Char) : Bool := c.toNat < 0x20 || 0x7E < c.toNat

/-- The escape of a character without a graphic form. -/
def controlEscape (c : Char) : List Char :=
  match c.toNat with
  | 7 => ['\\', 'a']
  | 8 => ['\\', 'b']
  | 9 => ['\\', 't']
  | 10 => ['\\', 'n']
  | 11 => ['\\', 'v']
  | 12 => ['\\', 'f']
  | 13 => ['\\', 'r']
  | n => ['\\', Nat.digitChar (n / 64 % 8), Nat.digitChar (n / 8 % 8), Nat.digitChar (n % 8)]

/-- The characters of a name inside quotes; those without a graphic form stand in quotes of their
own kind, which `open_` says are open. -/
def inQuotes : Bool → List Char → List Char
  | open_, [] => if open_ then ['\''] else []
  | open_, c :: rest =>
    if isControl c then
      (if open_ then [] else ['\'', '$', '\'']) ++ controlEscape c ++ inQuotes true rest
    else
      (if open_ then ['\'', '\''] else []) ++
        (if c == '\'' then ['\'', '\\', '\'', '\''] else [c]) ++ inQuotes false rest

def quotedName (name : String) : String :=
  let chars := name.toList
  let isPlain (c : Char) := !isControl c && !("!\"$&()*;<=>[\\^`|".toList.contains c)
  if chars.contains '\'' && chars.all isPlain then "\"" ++ name ++ "\""
  else
    let inner := inQuotes false chars
    String.ofList ('\'' :: inner ++ if chars.getLast?.any isControl then [] else ['\''])

/-- A name as it is shown in messages: in quotes if a command line would need them. -/
def shownName (name : String) : String :=
  let chars := name.toList
  if chars.isEmpty ||
      chars.zipIdx.any fun (c, place) => needsQuotes place chars.length c then quotedName name
  else name

end JavaStubs.Host

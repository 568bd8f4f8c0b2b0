import JavaStubs.Text.Quoted

/-!
Faults of file operations: the cause that the operating system gives, by its number and wording,
and the file that it concerns. A name with the NUL character never reaches the operating system
and is a fault of its own.
-/
namespace JavaStubs

/-- Why the operating system refuses an operation. -/
inductive OsCause where
  | notFound
  | denied
  | alreadyExists
  | notDirectory
  | isDirectory
  | invalid
  | nameTooLong
  | notEmpty
  | tooManyLinks
  /-- Any other cause, by its number and wording. -/
  | other (number : Int) (wording : String)
  deriving DecidableEq, Repr

namespace OsCause

/-- The number of a cause. -/
def number : OsCause → Int
  | .notFound => 2
  | .denied => 13
  | .alreadyExists => 17
  | .notDirectory => 20
  | .isDirectory => 21
  | .invalid => 22
  | .nameTooLong => 36
  | .notEmpty => 39
  | .tooManyLinks => 40
  | .other number _ => number

/-- The wording of a cause. -/
def wording : OsCause → String
  | .notFound => "No such file or directory"
  | .denied => "Permission denied"
  | .alreadyExists => "File exists"
  | .notDirectory => "Not a directory"
  | .isDirectory => "Is a directory"
  | .invalid => "Invalid argument"
  | .nameTooLong => "File name too long"
  | .notEmpty => "Directory not empty"
  | .tooManyLinks => "Too many levels of symbolic links"
  | .other _ wording => wording

end OsCause

/-- A refusal of the operating system, with the file that it concerns. -/
structure OsFault where
  cause : OsCause
  file : Option String
  deriving DecidableEq, Repr

/-- The wording of a cause with its number. -/
def OsCause.message (cause : OsCause) : String := s!"[Errno {cause.number}] {cause.wording}"

/-- The wording of a refusal. -/
def OsFault.message (fault : OsFault) : String :=
  fault.cause.message ++
    match fault.file with
    | some file => ": " ++ Text.quoted file
    | none => ""

/-- Why an operation on a file failed. -/
inductive FileFault where
  | os (fault : OsFault)
  /-- A link to a target is refused. -/
  | link (cause : OsCause) (target file : String)
  | nulInName
  deriving DecidableEq, Repr

/-- The wording of a failed operation. -/
def FileFault.message : FileFault → String
  | .os fault => fault.message
  | .link cause target file =>
    s!"{cause.message}: {Text.quoted target} -> {Text.quoted file}"
  | .nulInName => "embedded null byte"

end JavaStubs

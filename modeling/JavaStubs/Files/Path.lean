import JavaStubs.Text.Words

/-!
Path names. A path is kept as its anchor and its names: repeated separators, single dots and a
trailing separator leave no trace, while `..` stays, since what it means depends on links. `normal`
is the lexical reading, in which `..` removes the name before it.
-/
namespace JavaStubs

/-- Where a path starts: at the working directory, at the root, or at the root with the two
leading separators that are kept as written. -/
inductive Anchor where
  | here
  | root
  | doubleRoot
  deriving DecidableEq, Repr

/-- The leading separators of an anchor. -/
def Anchor.text : Anchor → String
  | .here => ""
  | .root => "/"
  | .doubleRoot => "//"

/-- A path name. -/
structure Path where
  anchor : Anchor
  names : List String
  deriving DecidableEq, Repr

namespace Path

/-- The names of a path text: the fields between separators, less empty ones and single dots. -/
def namesOf (text : String) : List String :=
  (Text.fieldsOf '/' text).filter fun name => name != "" && name != "."

/-- The anchor of a path text. -/
def anchorOf (text : String) : Anchor :=
  match text.toList with
  | '/' :: '/' :: '/' :: _ => .root
  | '/' :: '/' :: _ => .doubleRoot
  | '/' :: _ => .root
  | _ => .here

def ofText (text : String) : Path := ⟨anchorOf text, namesOf text⟩

/-- A path as a text; the empty path is a single dot. -/
def text (path : Path) : String :=
  if path.anchor = .here ∧ path.names = [] then "."
  else path.anchor.text ++ Text.joined "/" path.names

/-- Whether a path starts at the root. -/
def isAbsolute (path : Path) : Bool := path.anchor != .here

/-- A path continued by another one, which replaces it when it starts at the root. -/
def join (path other : Path) : Path :=
  if other.isAbsolute then other else ⟨path.anchor, path.names ++ other.names⟩

/-- A path continued by a text. -/
def child (path : Path) (text : String) : Path := path.join (ofText text)

def parent (path : Path) : Path := ⟨path.anchor, path.names.dropLast⟩

/-- The last name, or nothing. -/
def name (path : Path) : String := path.names.getLast?.getD ""

/-- The text that a name carries from its last dot on, unless that dot is its first or last
character. -/
def suffixOf (name : String) : String :=
  let chars := name.toList
  let tail := Text.afterLast '.' chars
  if chars.contains '.' && !tail.isEmpty && tail.length + 1 < chars.length
  then String.ofList ('.' :: tail) else ""

/-- Whether a text can take the place of a name's suffix: nothing, or a dot with more behind it,
and no separator. -/
def isSuffix (suffix : String) : Bool :=
  !suffix.toList.contains '/' && (suffix.isEmpty || (suffix.startsWith "." && suffix != "."))

/-- The path with its last name's suffix replaced. -/
def withSuffix (path : Path) (suffix : String) : Path :=
  let name := path.name
  let kept := (name.toList.take (name.length - (suffixOf name).length))
  ⟨path.anchor, path.names.dropLast ++ [String.ofList kept ++ suffix]⟩

/-- Names read from left to right, `..` removing the name before it. Above the start `..` is kept,
above the root it is dropped; `done` holds the names so far, latest first. -/
def normalNames (absolute : Bool) : List String → List String → List String
  | done, [] => done.reverse
  | done, name :: rest =>
    if name == ".." then
      match done with
      | [] => normalNames absolute (if absolute then [] else [".."]) rest
      | last :: before =>
        if last == ".." then normalNames absolute (".." :: done) rest
        else normalNames absolute before rest
    else normalNames absolute (name :: done) rest

/-- The path read without regard to links. -/
def normal (path : Path) : Path := ⟨path.anchor, normalNames path.isAbsolute [] path.names⟩

/-- A path made absolute from a directory, and read without regard to links. -/
def absoluteFrom (here path : Path) : Path := (here.join path).normal

/-- Whether a text holds the NUL character, which no file name can. -/
def hasNul (text : String) : Bool := text.toList.contains '\x00'

end Path
end JavaStubs

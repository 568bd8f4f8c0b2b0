import JavaStubs.Text.Words

/-!
The verbose listing that a disassembler prints for one class: a header with the kind, the name and
the supertypes, the flags of the class, its members between braces, and behind them a table of the
inner classes that the class refers to. `Listing.read` takes a listing line by line; where it
stands is a `Place`, and `Place.step` says what the next line adds. A text without a header is a
listing without a name.
-/
namespace JavaStubs

/-- A member of a class that a method descriptor was listed for. -/
structure Member where
  name : String
  descriptor : String
  flags : List String
  deriving DecidableEq, Repr

/-- What is taken from the listing of a class. -/
structure Listing where
  name : String
  kind : String
  flags : List String
  supertypes : List String
  members : List Member
  privateInner : List String
  deriving DecidableEq, Repr

namespace Listing

open Text (isBlank isLowerAscii isUpperAscii isDecimalDigit)

/-- A listing of which nothing is known yet. -/
def empty : Listing := ⟨"", "", [], [], [], []⟩

/-- Whether the class is an interface: by its flags, or by the kind in its header when no flags
are listed. -/
def isInterface (listing : Listing) : Bool :=
  if listing.flags.isEmpty then listing.kind == "interface"
  else listing.flags.contains "ACC_INTERFACE"

/-! ## Pieces of a line -/

/-- The text outside angle brackets, inside `depth` of them at the start. A closing bracket that
closes nothing is dropped. -/
def erasedFrom : Nat → List Char → List Char
  | _, [] => []
  | depth, '<' :: rest => erasedFrom (depth + 1) rest
  | depth, '>' :: rest => erasedFrom (depth - 1) rest
  | 0, c :: rest => c :: erasedFrom 0 rest
  | depth + 1, _ :: rest => erasedFrom (depth + 1) rest

/-- The text outside angle brackets. -/
def erased (text : List Char) : List Char := erasedFrom 0 text

/-- The name that a declaration gives a member: the last word before its parameters. -/
def memberName (declaration : List Char) : String :=
  String.ofList ((Text.words (declaration.takeWhile (· != '('))).getLast?.getD [])

/-- The flags in a text: the mark `ACC_` and the capitals behind it, at least one. -/
def flagsIn : List Char → List String
  | 'A' :: 'C' :: 'C' :: '_' :: rest =>
    let name := rest.takeWhile isUpperAscii
    if name.isEmpty then flagsIn rest
    else String.ofList ("ACC_".toList ++ name) :: flagsIn (rest.dropWhile isUpperAscii)
  | _ :: rest => flagsIn rest
  | [] => []
termination_by text => text.length
decreasing_by
  · simp; omega
  · have := (List.dropWhile_sublist isUpperAscii (l := rest)).length_le
    simp; omega
  · simp

/-- The words for the kinds of class. -/
def kinds : List (List Char) := ["class", "interface", "enum", "record"].map String.toList

/-- The kind of class that a header names and the text behind it. The fields are those between the
blanks of a line: words in small letters, the last of them a kind, and then a text that begins
with no blank. The kind is as far to the right as that allows. -/
def heading? : List (List Char) → Option (String × List Char)
  | word :: next :: more =>
    if word.isEmpty || !word.all isLowerAscii then none
    else match heading? (next :: more) with
      | some found => some found
      | none =>
        if kinds.contains word && next.head?.any (!isBlank ·)
        then some (String.ofList word, [' '].intercalate (next :: more)) else none
  | _ => none

/-- The names that follow the kind in a header. -/
def headedNames (text : List Char) : List String :=
  (Text.words ((erased text).map fun c => if c == ',' then ' ' else c)).map String.ofList

/-- The text behind at least one digit. -/
def pastDigits? (text : List Char) : Option (List Char) :=
  if text.head?.any isDecimalDigit then some (text.dropWhile isDecimalDigit) else none

/-- The text behind the references of a row to the enclosing class, or the whole text when it has
none. -/
def pastEnclosing (text : List Char) : List Char :=
  let past := do
    let text ← pastDigits? (← Text.pastStart? "= #".toList text)
    pastDigits? (← Text.pastStart? " of #".toList text)
  past.getD text

/-- The modifiers and the binary name that a row of the inner class table gives a class. -/
def innerClass? (line : List Char) : Option (List String × String) := do
  let row := line.dropWhile isBlank
  guard (row.length < line.length)
  let modifiers := Text.dropTrailing isBlank (row.takeWhile (· != '#'))
  guard (modifiers.all fun c => isLowerAscii c || c == ' ')
  let text ← pastDigits? (← Text.pastStart? ['#'] (row.dropWhile (· != '#')))
  let text ← Text.pastStart? [';'] (pastEnclosing text)
  let text ← Text.pastStart? ['/', '/'] (text.dropWhile isBlank)
  let note := text.dropWhile isBlank
  guard ("=class".toList.isSuffixOf (note.takeWhile (!isBlank ·)))
  let name ← Text.pastStart? [' '] (note.dropWhile (!isBlank ·))
  let name := name.takeWhile (!isBlank ·)
  guard (!name.isEmpty)
  return ((Text.words modifiers).map String.ofList,
    Text.replaced (· == '/') '.' (String.ofList name))

/-! ## Lines -/

/-- A member whose declaration was read but not yet its flags. -/
structure Declaration where
  text : List Char
  descriptor : Option (List Char)
  deriving DecidableEq, Repr

/-- Where in a listing a line stands. -/
inductive Place where
  | preamble
  | header
  | members (pending : Option Declaration)
  | trailer
  | innerClasses
  deriving DecidableEq, Repr

/-- The fault of a listing whose header names no class. -/
inductive Fault where
  | namelessHeader
  deriving DecidableEq, Repr

/-- A line is a declaration of a member when it is indented by two blanks and ends in a
semicolon. -/
def isDeclaration (line : List Char) : Bool :=
  "  ".toList.isPrefixOf line && !"   ".toList.isPrefixOf line &&
    (Text.dropTrailing isBlank line).getLast? == some ';'

/-- The listing with what a header line says. -/
def withHeader (listing : Listing) (kind : String) (text : List Char) : Except Fault Listing :=
  match headedNames text with
  | [] => .error .namelessHeader
  | name :: others =>
    .ok { listing with
      name := name
      kind := kind
      supertypes := others.filter fun word => word != "extends" && word != "implements" }

/-- The listing with one more member, if its descriptor is that of a method. -/
def withMember (listing : Listing) (text descriptor flags : List Char) : Listing :=
  if descriptor.head? == some '('
  then { listing with
    members := listing.members ++
      [⟨memberName text, String.ofList descriptor, (flagsIn flags).eraseDups⟩] }
  else listing

/-- The place and the listing after a line between the braces. -/
def memberStep (listing : Listing) (pending : Option Declaration) (line : List Char) :
    Place × Listing :=
  let text := Text.trim line
  if line.head? == some '\x7d' then (.trailer, listing)
  else if isDeclaration line then
    (.members (some ⟨Text.dropTrailing (· == ';') text, none⟩), listing)
  else match pending with
    | none => (.members none, listing)
    | some declaration =>
      if "descriptor:".toList.isPrefixOf text then
        (.members (some { declaration with
          descriptor := some (Text.trim (text.drop "descriptor:".length)) }), listing)
      else match declaration.descriptor with
        | none => (.members pending, listing)
        | some descriptor =>
          if "flags:".toList.isPrefixOf text
          then (.members none, listing.withMember declaration.text descriptor line)
          else (.members pending, listing)

/-- The listing with the class of a row, if the row calls it private. -/
def withInner (listing : Listing) (line : List Char) : Listing :=
  match innerClass? line with
  | some (modifiers, name) =>
    if modifiers.contains "private" && !listing.privateInner.contains name
    then { listing with privateInner := listing.privateInner ++ [name] } else listing
  | none => listing

/-- The place and the listing after one more line. -/
def Place.step (place : Place) (listing : Listing) (line : List Char) :
    Except Fault (Place × Listing) :=
  match place with
  | .preamble =>
    match heading? (Text.fields (· == ' ') line) with
    | some (kind, text) => do return (.header, ← listing.withHeader kind text)
    | none => .ok (.preamble, listing)
  | .header =>
    if "flags:".toList.isPrefixOf (Text.trim line) && listing.flags.isEmpty
    then .ok (.header, { listing with flags := (flagsIn line).eraseDups })
    else .ok (if line.head? == some '\x7b' then .members none else .header, listing)
  | .members pending => .ok (listing.memberStep pending line)
  | .trailer =>
    .ok (if "InnerClasses:".toList.isPrefixOf line then .innerClasses else .trailer, listing)
  | .innerClasses =>
    .ok (if line.head?.any (!isBlank ·) then (.trailer, listing)
      else (.innerClasses, listing.withInner line))

/-- The listing after the lines from a place on. -/
def readFrom (place : Place) (listing : Listing) : List (List Char) → Except Fault Listing
  | [] => .ok listing
  | line :: rest => do
    let (place, listing) ← place.step listing line
    readFrom place listing rest

/-- What is taken from a text. -/
def read (text : String) : Except Fault Listing :=
  readFrom .preamble empty (Text.lines text.toList)

end Listing
end JavaStubs

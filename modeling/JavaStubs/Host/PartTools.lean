import JavaStubs.Host.LineTools

/-!
Programs that print the first or the last parts of texts, and one that counts what is in them. A
part is described by a count of lines or of characters, which may also be the count of those that
are left out.
-/
namespace JavaStubs.Host

open Work

/-! ## Parts -/

/-- A part of a text. -/
structure TextPart where
  /-- What ends a line, if lines are counted and not characters. -/
  mark : Option Char
  count : Nat
  /-- Whether the count is of what is left out. -/
  isRest : Bool
  deriving Repr

namespace TextPart

/-- The part at the start of a text. -/
def ofStart (part : TextPart) (text : String) : String :=
  let kept (length : Nat) := if part.isRest then length - part.count else part.count
  match part.mark with
  | some mark =>
    let lines := endedLines mark text
    String.join (lines.take (kept lines.length))
  | none => String.ofList (text.toList.take (kept text.length))

/-- The part at the end of a text; a count of what is left out counts the first that is kept. -/
def ofEnd (part : TextPart) (text : String) : String :=
  let left (length : Nat) := if part.isRest then part.count - 1 else length - part.count
  match part.mark with
  | some mark =>
    let lines := endedLines mark text
    String.join (lines.drop (left lines.length))
  | none => String.ofList (text.toList.drop (left text.length))

end TextPart

/-- How the parts of several texts are printed. -/
structure PartStyle where
  mark : Char := '\n'
  /-- Whether titles are printed, if not only for several texts. -/
  titled : Option Bool := none
  /-- The last count that was given, and whether it is of lines. -/
  ofLines : Bool := true
  count : Nat := 10
  isRest : Bool := false

def PartStyle.part (style : PartStyle) : TextPart :=
  ⟨if style.ofLines then some style.mark else none, style.count, style.isRest⟩

/-- The style with a count, as it is spelled; a sign that stands in front of one that counts from the
usual end may be left out. -/
def PartStyle.withCount (style : PartStyle) (restSign usualSign : Char) (ofLines : Bool)
    (text : String) : Except String PartStyle :=
  let digits := match text.toList with
    | c :: rest => if c == usualSign || (c == restSign && c == '-') then rest else c :: rest
    | [] => []
  let unsigned := match digits with
    | '+' :: rest => rest
    | digits => digits
  match Sizes.read? (String.ofList unsigned) with
  | some count =>
    .ok { style with ofLines, count, isRest := text.startsWith (String.singleton restSign) }
  | none =>
    let counted := if ofLines then "lines" else "bytes"
    .error s!"invalid number of {counted}: {quotedName (String.ofList digits)}"

/-- The style that options ask for. -/
def PartStyle.withOptions (style : PartStyle) (restSign usualSign : Char)
    (options : List (Char × String)) : Except String PartStyle :=
  options.foldlM (fun style (letter, value) =>
    match letter with
    | 'n' => style.withCount restSign usualSign true value
    | 'c' => style.withCount restSign usualSign false value
    | 'q' => .ok { style with titled := some false }
    | 'v' => .ok { style with titled := some true }
    | 'z' => .ok { style with mark := '\x00' }
    | _ => .ok style) style

/-- Prints a title above the text of a file, apart from the text before. -/
def titled (isFirst : Bool) (name : String) : Work Unit :=
  say ((if isFirst then "" else "\n") ++
    "==> " ++ (if name == "-" then "standard input" else name) ++ " <==\n")

/-- Prints a part of each text, under titles if they are asked for or if there are several; what is
not taken of an input that is a file is left for others, if the parts are the first ones. -/
def partsOf (names : List String) (leaves : Bool) (style : PartStyle) (part : String → String) :
    Work Unit := do
  let names := orInput names
  let shows := style.titled.getD (1 < names.length)
  let _ ← names.foldlM (fun isFirst name => do
    match ← textOf name with
    | .ok text =>
      if shows then titled isFirst name
      say (part text)
      if leaves && name == "-" && (← get).call.origin.size?.isSome then
        let rest := String.ofList (text.toList.drop (part text).length)
        modify fun working => { working with input := rest }
      return false
    | .error .isDirectory =>
      if shows then titled isFirst name
      let name := inputName "standard input" name
      complain s!"error reading {quotedName name}: {OsCause.isDirectory.wording}" 1
      return false
    | .error cause =>
      complain s!"cannot open {quotedName name} for reading: {cause.wording}" 1
      return isFirst) true

/-- The options of programs that print parts; the digits are there to be refused. -/
def partOptions (plain valued : String) (words : List (String × Char)) : OptionTable :=
  options ("qvz0123456789" ++ plain) ("nc" ++ valued)
    ([("lines", 'n'), ("bytes", 'c'), ("quiet", 'q'), ("silent", 'q'), ("verbose", 'v'),
      ("zero-terminated", 'z')] ++ words)

/-- The style that letters right behind a number ask for, as in `-5q`. -/
def PartStyle.withLetters (style : PartStyle) (digits : String) (letters : List Char) :
    Except Char PartStyle :=
  let read (found : PartStyle × String) (letter : Char) : Except Char (PartStyle × String) :=
    let (style, size) := found
    if letter == 'l' then .ok ({ style with ofLines := true }, size)
    else if letter == 'c' then .ok ({ style with ofLines := false }, "")
    else if "bkm".toList.contains letter then
      .ok ({ style with ofLines := false }, String.singleton letter)
    else if letter == 'q' then .ok ({ style with titled := some false }, size)
    else if letter == 'v' then .ok ({ style with titled := some true }, size)
    else if letter == 'z' then .ok ({ style with mark := '\x00' }, size)
    else .error letter
  (letters.foldlM read (style, "")).map fun (style, size) =>
    { style with count := (Sizes.read? (digits ++ size)).getD 0 }

/-- Prints the first parts of texts by the options that are left. -/
def headBy (style : PartStyle) (arguments : List String) : Work Unit := do
  match (partOptions "" "" []).read arguments with
  | .error fault => misuse fault.message 1
  | .ok given =>
    match given.options.find? (·.1.isDigit), style.withOptions '-' '-' given.options with
    | some (digit, _), _ => misuse s!"invalid trailing option -- {digit}" 1
    | none, .error message => complain message 1
    | none, .ok style => partsOf given.operands true style style.part.ofStart

/-- Prints the first parts of texts. -/
def head : Work Unit := do
  let arguments := (← get).call.arguments
  match arguments, arguments.head?.map String.toList with
  | _ :: rest, some ('-' :: c :: more) =>
    if c.isDigit then
      let digits := c :: more.takeWhile Char.isDigit
      match PartStyle.withLetters {} (String.ofList digits) (more.dropWhile Char.isDigit) with
      | .ok style => headBy style rest
      | .error letter => misuse s!"invalid trailing option -- {letter}" 1
    else headBy {} arguments
  | _, _ => headBy {} arguments

/-- The style of a first argument in the short form, a sign and a count with letters behind it;
it may stand before one operand at most. -/
def shortTail? (arguments : List String) : Option PartStyle :=
  let isAlone := match arguments with
    | [_] => true
    | [_, "--"] => true
    | [_, "--", _] => true
    | [_, name] => name == "-" || !name.startsWith "-"
    | _ => false
  match (arguments.head?.getD "").toList with
  | sign :: text =>
    let digits := text.takeWhile Char.isDigit
    let rest := text.drop digits.length
    let isLone := sign == '-' && (text.isEmpty || text == ['c'])
    let unit := rest.head?.filter "bcl".toList.contains
    let rest := rest.drop (if unit.isSome then 1 else 0)
    let size := if unit = some 'b' then 512 else 1
    if !isAlone || (sign != '-' && sign != '+') || isLone || !(rest.isEmpty || rest == ['f']) then
      none
    else
      let count := if digits.isEmpty then 10 else (String.ofList digits).toNat?.getD 0
      some { ofLines := unit.getD 'l' == 'l', count := count * size, isRest := sign == '+' }
  | [] => none

/-- Prints the last parts of texts. -/
def tail : Work Unit := do
  let arguments := (← get).call.arguments
  let (style, arguments) := match shortTail? arguments with
    | some style => (style, arguments.drop 1)
    | none => ({}, arguments)
  let table := partOptions "fF\x01" "s\x02\x03" [("retry", '\x01'), ("pid", '\x02'),
    ("sleep-interval", 's'), ("max-unchanged-stats", '\x03'), ("follow", '\x04')]
  match { table with optional := ['\x04'] }.read arguments with
  | .error fault => misuse fault.message 1
  | .ok given =>
    match given.options.find? (·.1.isDigit), style.withOptions '+' '-' given.options with
    | some (digit, _), _ => complain s!"option used in invalid context -- {digit}" 1
    | none, .error message => complain message 1
    | none, .ok style => partsOf given.operands false style style.part.ofEnd

/-! ## Counting -/

def isShown (c : Char) : Bool := ' ' ≤ c && c ≤ '~'

/-- The number of words of a text; what is never shown makes no word. -/
def wordCount (text : String) : Nat :=
  let isBlank (c : Char) := c == ' ' || ('\x09' ≤ c && c ≤ '\x0d')
  ((Text.fields isBlank text.toList).filter (·.any isShown)).length

/-- The number of columns that the longest line fills; `column` is that of the present place. -/
def longestLine (longest column : Nat) : List Char → Nat
  | [] => max longest column
  | c :: rest =>
    if c == '\n' || c == '\r' || c == '\x0c' then longestLine (max longest column) 0 rest
    else if c == '\t' then longestLine longest (column + (8 - column % 8)) rest
    else longestLine longest (if isShown c then column + 1 else column) rest

/-- What is counted of a text, in the order in which it is shown. -/
def countsOf (letters : List Char) (text : String) : List Nat :=
  let counts : List (Char × Nat) :=
    [('l', text.toList.count '\n'), ('w', wordCount text), ('m', text.length),
      ('c', text.length), ('L', longestLine 0 0 text.toList)]
  (counts.filter fun (letter, _) => letters.contains letter).map Prod.snd

/-- The counts of several texts together: the longest line is the longest of all. -/
def totalCounts (letters : List Char) (a b : List Nat) : List Nat :=
  let added := List.zipWith (· + ·) a b
  if letters.contains 'L' then
    added.dropLast ++ [max (a.getLast?.getD 0) (b.getLast?.getD 0)]
  else added

/-- The width of a column of counts: that of the sum of the sizes, or seven when some text is of
unknown size; a single number stands alone. -/
def countWidth (sizes : List (Option Nat)) : Nat :=
  let total := (sizes.filterMap id).foldl (· + ·) 0
  max (toString total).length (if sizes.contains none then 7 else 1)

/-- Counts lines, words and characters of texts. -/
def wc : Work Unit :=
  withOptions (options "clmLw" "" [("bytes", 'c'), ("chars", 'm'), ("lines", 'l'), ("words", 'w'),
    ("max-line-length", 'L')]) 1 fun given => do
    let letters := given.options.map Prod.fst
    let letters := if letters.isEmpty then ['l', 'w', 'c'] else letters
    let call := (← get).call
    let names := orInput given.operands
    let sizes ← names.mapM fun name => do
      if name == "-" then return [call.origin.size?]
      match ← entryAt .look name with
      | .ok (_, .file content) => return [some content.toBytes.size]
      | .ok _ => return [none]
      | .error _ => return []
    let columns := (countsOf letters "").length
    let width := if names.length = 1 && columns = 1 then 1 else countWidth sizes.flatten
    let line (counts : List Nat) (name : String) : String :=
      Text.joined " " (counts.map (inColumn width)) ++ (if name.isEmpty then "" else " " ++ name) ++
        "\n"
    let totals ← names.foldlM (fun totals name => do
      let text ← textOf name
      let shown := if given.operands.isEmpty then ""
        else if name.contains '\n' then shownName name else name
      match text with
      | .error .isDirectory =>
        complainOf (if given.operands.isEmpty then "standard input" else name) .isDirectory 1
        say (line (countsOf letters "") shown)
        return totals
      | .error cause =>
        complainOf name cause 1
        return totals
      | .ok text =>
        let counts := countsOf letters text
        say (line counts shown)
        return totalCounts letters totals counts) (List.replicate columns 0)
    if 1 < names.length then say (line totals "total")

end JavaStubs.Host

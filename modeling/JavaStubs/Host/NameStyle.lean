import JavaStubs.Host.Process
import JavaStubs.Text.Words

/-!
How the names of files are shown. There are ways to show a name: as it is, in quotes of one kind or
another, or with escapes. And there is the layout of cells on lines: in columns that are as narrow as their
cells allow, filled downwards or across, or one behind another with a separator. Cells are known by their
widths.
-/
namespace JavaStubs.Host

/-- A way to show names. -/
inductive NameStyle where
  | literal
  /-- In the quotes of a command line; `always`, or where they are needed, and with escapes or not. -/
  | shell (always escapes : Bool)
  /-- In quotes of a program text, always or where they are needed. -/
  | quoted (always : Bool)
  | escaped
  /-- In single quotes. -/
  | single
  deriving DecidableEq, Repr

namespace NameStyle

/-- The words for ways to show names. -/
def words : List (String × NameStyle) :=
  [("literal", .literal), ("shell", .shell false false), ("shell-always", .shell true false),
    ("shell-escape", .shell false true), ("shell-escape-always", .shell true true),
    ("c", .quoted true), ("c-maybe", .quoted false), ("escape", .escaped), ("locale", .single),
    ("clocale", .quoted true)]

/-- A name with escapes for what has no graphic form, for backslashes and for some others. -/
def withEscapes (others : List Char) (name : String) : String :=
  String.ofList (name.toList.flatMap fun c =>
    if isControl c then controlEscape c
    else if c == '\\' || others.contains c then ['\\', c] else [c])

/-- A name in single quotes, or in double ones if it has single quotes and nothing special. -/
def inPlainQuotes (name : String) : String :=
  let chars := name.toList
  let isPlain (c : Char) := !isControl c && !("!\"$&()*;<=>[\\^\x60|".toList.contains c)
  if chars.contains '\'' && chars.all isPlain then "\"" ++ name ++ "\""
  else "'" ++ name.replace "'" "'\\''" ++ "'"

/-- Whether a name needs quotes in a command line. -/
def needsShellQuotes (others : List Char) (name : String) : Bool :=
  let chars := name.toList
  chars.isEmpty || chars.any others.contains ||
    chars.zipIdx.any fun (c, place) => needsQuotes place chars.length c

/-- A name as it is shown; `others` are more characters that are quoted. -/
def show_ (style : NameStyle) (others : List Char) (name : String) : String :=
  match style with
  | .literal => name
  | .shell always escapes =>
    if !always && !needsShellQuotes others name then name
    else if escapes then quotedName name else inPlainQuotes name
  | .quoted always =>
    let shown := withEscapes ('"' :: others) name
    if !always && shown == name then name else "\"" ++ shown ++ "\""
  | .escaped => withEscapes (' ' :: others) name
  | .single => "'" ++ withEscapes ('\'' :: others) name ++ "'"

/-- Whether names without quotes are set apart from those with quotes by a blank in front. -/
def isAligned : NameStyle → Bool
  | .shell always _ => !always
  | .quoted always => !always
  | _ => false

end NameStyle
end JavaStubs.Host

namespace JavaStubs.Host.Columns

/-! ## Widths -/

def narrowest : Nat := 3

/-- The column of a cell among some columns. -/
def columnOf (downwards : Bool) (cells columns place : Nat) : Nat :=
  if downwards then place / ((cells + columns - 1) / columns) else place % columns

/-- The widths of columns for cells of some widths; all but the last have a gap of two. -/
def widthsFor (downwards : Bool) (cells : List Nat) (columns : Nat) : List Nat :=
  let placed := cells.zipIdx.map fun (width, place) =>
    (columnOf downwards cells.length columns place, width)
  (List.range columns).map fun column =>
    let gap := if column + 1 == columns then 0 else 2
    (placed.filterMap fun (other, width) => if other == column then some (width + gap) else none).foldl
      max narrowest

/-- The greatest number of columns, up to a limit, of which all cells fit on a line. -/
def fittingColumns (downwards : Bool) (lineLength : Nat) (cells : List Nat) : Nat → Nat
  | 0 => 1
  | 1 => 1
  | columns + 1 =>
    let widths := widthsFor downwards cells (columns + 1)
    if widths.all (· == narrowest) || widths.foldl (· + ·) 0 < lineLength then columns + 1
    else fittingColumns downwards lineLength cells columns

/-- The widths of as many columns as fit on a line. -/
def widths (downwards : Bool) (lineLength : Nat) (cells : List Nat) : List Nat :=
  let most := (lineLength + narrowest - 1) / narrowest
  let limit := if most == 0 then cells.length else min most cells.length
  widthsFor downwards cells (fittingColumns downwards lineLength cells limit)

/-! ## Gaps -/

/-- The text from one place on a line to another, with tabs where they save something; `fuel` is at
least the distance. -/
def gap (tab : Nat) : Nat → Nat → Nat → List Char
  | 0, _, _ => []
  | fuel + 1, from_, target =>
    if target ≤ from_ then []
    else if tab != 0 && (from_ + 1) / tab < target / tab then
      '\t' :: gap tab fuel (from_ + tab - from_ % tab) target
    else ' ' :: gap tab fuel (from_ + 1) target

/-- A line of cells in columns of some widths; `place` is where it goes on. -/
def lineFrom (tab : Nat) : Nat → List (String × Nat) → List Nat → String
  | _, [], _ => ""
  | _, [(text, _)], _ => text
  | place, (text, length) :: more, widths =>
    let width := widths.headD 0
    text ++ String.ofList (gap tab (width + 1) (place + length) (place + width)) ++
      lineFrom tab (place + width) more widths.tail

/-! ## Layouts -/

/-- Cells in rows; `fuel` is at least their number. -/
def rowsOf {α : Type} (columns : Nat) : Nat → List α → List (List α)
  | 0, _ => []
  | _ + 1, [] => []
  | fuel + 1, cells => cells.take columns :: rowsOf columns fuel (cells.drop columns)

/-- The lines of cells, each a text and its width, in columns. -/
def lines (downwards : Bool) (lineLength tab : Nat) (cells : List (String × Nat)) : List String :=
  let found := widths downwards lineLength (cells.map Prod.snd)
  let count := cells.length
  let columns := max 1 found.length
  let rows := if downwards then
      let height := (count + columns - 1) / columns
      (List.range height).map fun row =>
        cells.zipIdx.filterMap fun (cell, place) =>
          if place % height == row then some cell else none
    else rowsOf columns count cells
  rows.map fun row => lineFrom tab 0 row found

/-- Cells one behind another with a separator, on lines that end with it; no length of a line at all
makes one line. -/
def joined (separator lineEnd : String) (lineLength : Nat) : Nat → List (String × Nat) → String
  | _, [] => ""
  | _, [(text, _)] => text
  | place, (text, length) :: (next, nextLength) :: more =>
    let place := place + length
    let goesOn := lineLength == 0 || place + nextLength + 2 < lineLength
    let (between, place) : String × Nat := if goesOn then (" ", place + 2) else (lineEnd, 0)
    text ++ separator ++ between ++ joined separator lineEnd lineLength place
      ((next, nextLength) :: more)

end JavaStubs.Host.Columns

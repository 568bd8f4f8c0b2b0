import JavaStubs.Host.LineDifferences
import JavaStubs.Host.Regex

/-!
The ways to tell in which lines two texts differ: commands that lead from one to the other, for a reader
or for an editor, or the lines that differ together with some around them.
-/
namespace JavaStubs.Host

open JavaStubs.Host.Alignment (Part)

/-- A way to tell differences. -/
inductive DifferenceStyle where
  | normal
  | context
  | unified
  /-- Commands for an editor, the last one first. -/
  | editor
  /-- Commands in order. -/
  | forward
  /-- Commands with numbers of lines. -/
  | counted
  /-- Both texts beside each other. -/
  | columns
  deriving DecidableEq, Repr

namespace DifferenceStyle

/-- Whether a style tells that a text has no line end at its end. -/
def tellsEnds : DifferenceStyle → Bool
  | .editor => false
  | .forward => false
  | _ => true

end DifferenceStyle

/-- How differences are told. -/
structure DifferenceView where
  rule : LineRule := {}
  /-- The number of lines around those that differ. -/
  context : Nat := 0
  /-- What the line looks like that is shown with lines behind it. -/
  heading : Option Regex := none
  /-- The lines that do not count as differences. -/
  ignored : Option Regex := none
  ignoreEmpty : Bool := false
  expandTabs : Bool := false
  /-- Whether a tab stands between a mark and a line. -/
  tabFirst : Bool := false
  /-- Whether an empty line has no blank in front. -/
  bareEmpty : Bool := false
  width : Nat := 130
  leftOnly : Bool := false
  onlyDifferent : Bool := false

/-- The places of a run of lines. -/
structure LineRun where
  start : Nat
  count : Nat
  deriving DecidableEq, Repr

namespace LineRun

def places (run : LineRun) : List Nat := (List.range run.count).map (run.start + ·)

/-- The number of the last line, or of the one in front of a run without lines. -/
def last (run : LineRun) : Nat := run.start + run.count

/-- The numbers of the first and the last line, or of the last one alone. -/
def numbers (mark : String) (run : LineRun) : String :=
  if 1 < run.count then s!"{run.start + 1}{mark}{run.last}" else toString run.last

/-- The numbers of the first line and of lines. -/
def counts (run : LineRun) : String :=
  match run.count with
  | 0 => s!"{run.last},0"
  | 1 => toString run.last
  | count => s!"{run.start + 1},{count}"

/-- A run with lines around it, of a text with some number of lines. -/
def widened (run : LineRun) (context size : Nat) : LineRun :=
  let start := run.start - context
  ⟨start, min (run.last + context) size - start⟩

end LineRun

/-- Parts that are told together, and what they span of both texts. -/
structure Hunk where
  parts : List Part
  first : LineRun
  second : LineRun
  /-- Whether lines of the first text are missing in the second one. -/
  removes : Bool
  /-- Whether the second text has lines of its own. -/
  adds : Bool

namespace DifferenceView

/-- Whether a line does not count where it differs. -/
def isIgnored (view : DifferenceView) (line : String) : Bool :=
  let chars := line.toList
  let shown := match view.rule.blanks with
    | .exact _ false => chars
    | .exact _ true => if chars.all isWhiteSpace then [] else chars
    | _ => chars.dropWhile isWhiteSpace
  (view.ignoreEmpty && shown.isEmpty) ||
    view.ignored.any fun regex => (regex.search .plain chars).isSome

/-- Whether all lines of a part do not count. -/
def isTrivial (view : DifferenceView) (first second : ComparedText) (part : Part) : Bool :=
  (view.ignoreEmpty || view.ignored.isSome) &&
    (LineRun.mk part.first part.firstCount).places.all (fun place =>
      view.isIgnored (first.lineAt place)) &&
    (LineRun.mk part.second part.secondCount).places.all fun place =>
      view.isIgnored (second.lineAt place)

def hunkOf (parts : List Part) : Hunk :=
  let start := parts.head?.getD ⟨0, 0, 0, 0⟩
  let last := parts.getLast?.getD start
  { parts
    first := ⟨start.first, last.first + last.firstCount - start.first⟩
    second := ⟨start.second, last.second + last.secondCount - start.second⟩
    removes := parts.any (0 < ·.firstCount)
    adds := parts.any (0 < ·.secondCount) }

/-- Parts, each with whether it is trivial, put together where they stand close to each other; a trivial
one has to stand closer to the one in front. -/
def grouped (context : Nat) : List (Part × Bool) → List (List (Part × Bool))
  | [] => []
  | part :: rest =>
    match grouped context rest with
    | (next :: more) :: others =>
      let limit := if next.2 then context else 2 * context + 1
      if next.1.first - (part.1.first + part.1.firstCount) < limit
      then (part :: next :: more) :: others
      else [part] :: (next :: more) :: others
    | others => [part] :: others

/-- The hunks that are told: parts alone, or those close to each other together. -/
def hunks (view : DifferenceView) (together : Bool) (first second : ComparedText)
    (parts : List Part) : List Hunk :=
  let marked := parts.map fun part => (part, view.isTrivial first second part)
  let groups := if together then grouped view.context marked else marked.map ([·])
  (groups.filter (·.any (!·.2))).map fun group => hunkOf (group.map Prod.fst)

/-! ## Lines -/

/-- A line with blanks for its tabs; a return to the start is followed by the mark again. -/
def expanded (tabSize : Nat) (mark : String) : Nat → List Char → List Char
  | _, [] => []
  | column, c :: rest =>
    match c with
    | '\t' =>
      let count := tabSize - column % tabSize
      List.replicate count ' ' ++ expanded tabSize mark (column + count) rest
    | '\r' => c :: (if rest.isEmpty then [] else mark.toList) ++ expanded tabSize mark 0 rest
    | '\x08' =>
      if column = 0 then expanded tabSize mark column rest
      else c :: expanded tabSize mark (column - 1) rest
    | _ => c :: expanded tabSize mark (if isControl c then column else column + 1) rest

/-- A line with what stands in front of it, and without a line end if it has none. -/
def bareLine (view : DifferenceView) (mark : String) (text : ComparedText) (place : Nat) : String :=
  let line := text.lineAt place
  let shown := if view.expandTabs
    then String.ofList (expanded view.rule.tabSize mark 0 line.toList) else line
  mark ++ shown ++ if text.isOpenAt place then "" else "\n"

/-- A line with what stands in front of it; a missing line end is told. -/
def markedLine (view : DifferenceView) (mark : String) (text : ComparedText) (place : Nat) : String :=
  view.bareLine mark text place ++
    if text.isOpenAt place then "\n\\ No newline at end of file\n" else ""

/-- The mark of a line, with what stands between it and the line. -/
def front (view : DifferenceView) (mark : String) (text : ComparedText) (place : Nat) : String :=
  if view.bareEmpty && (text.lineAt place).isEmpty && !text.isOpenAt place
  then if mark == " " then "" else mark
  else mark ++ if view.tabFirst then "\t" else " "

def markedLines (view : DifferenceView) (mark : String) (text : ComparedText) (run : LineRun) :
    String :=
  String.join (run.places.map fun place => view.markedLine (view.front mark text place) text place)

/-! ## Commands -/

/-- The letter for what happens to lines. -/
def letter (hunk : Hunk) : String :=
  if hunk.removes then if hunk.adds then "c" else "d" else "a"

/-- A hunk as a command with the lines. -/
def normalHunk (view : DifferenceView) (first second : ComparedText) (hunk : Hunk) : String :=
  let head := hunk.first.numbers "," ++ letter hunk ++ hunk.second.numbers "," ++ "\n"
  head ++ view.markedLines "<" first hunk.first ++
    (if hunk.removes && hunk.adds then "---\n" else "") ++ view.markedLines ">" second hunk.second

/-- Lines for an editor that takes them up to a dot alone; a line that is such a dot itself is made from
two dots. `isOpen` says that the editor takes lines. -/
def editorLines : Bool → List String → String
  | isOpen, [] => if isOpen then ".\n" else ""
  | isOpen, line :: rest =>
    let start := if isOpen then "" else "a\n"
    if line == ".\n" then start ++ "..\n.\ns/.//\n" ++ editorLines false rest
    else start ++ line ++ editorLines true rest

/-- A hunk as a command for an editor. -/
def editorHunk (view : DifferenceView) (second : ComparedText) (hunk : Hunk) : String :=
  let lines := hunk.second.places.map (view.bareLine "" second)
  hunk.first.numbers "," ++ letter hunk ++ "\n" ++
    if hunk.adds then editorLines true lines else ""

/-- A hunk as a command in order. -/
def forwardHunk (view : DifferenceView) (second : ComparedText) (hunk : Hunk) : String :=
  let lines := hunk.second.places.map (view.bareLine "" second)
  letter hunk ++ hunk.first.numbers " " ++ "\n" ++
    if hunk.adds then String.join lines ++ ".\n" else ""

/-- A hunk as commands with numbers of lines. -/
def countedHunk (view : DifferenceView) (second : ComparedText) (hunk : Hunk) : String :=
  let removed := if hunk.removes then s!"d{hunk.first.start + 1} {hunk.first.count}\n" else ""
  let added := if hunk.adds
    then s!"a{hunk.first.last} {hunk.second.count}\n" ++
      String.join (hunk.second.places.map (view.bareLine "" second))
    else ""
  removed ++ added

/-! ## Lines with others around them -/

/-- The heading that a place stands under, with a blank in front; of a heading not more is shown than
forty characters. -/
def headingOf (view : DifferenceView) (first : ComparedText) (place : Nat) : String :=
  match view.heading with
  | none => ""
  | some regex =>
    match (List.range place).reverse.find? fun above =>
        (regex.search .plain (first.lineAt above).toList).isSome with
    | none => ""
    | some above =>
      let line := (first.lineAt above).toList.dropWhile isWhiteSpace
      String.ofList (' ' :: Text.dropTrailing isWhiteSpace (line.take 40))

/-- The marks of the lines of a run: one for those in parts where the other text has lines, another one
for those in other parts. -/
def sidedLines (view : DifferenceView) (text : ComparedText) (mark : String) (run : LineRun)
    (parts : List (LineRun × Nat)) : String :=
  String.join (run.places.map fun place =>
    let found := parts.find? fun (own, _) => own.start ≤ place && place < own.last
    let mark := match found with
      | none => " "
      | some (_, others) => if 0 < others then "!" else mark
    view.markedLine (view.front mark text place) text place)

/-- A hunk as the lines of both texts, one text below the other. -/
def contextHunk (view : DifferenceView) (first second : ComparedText) (hunk : Hunk) : String :=
  let left := hunk.first.widened view.context first.lines.size
  let right := hunk.second.widened view.context second.lines.size
  let removed := hunk.parts.map fun part => (LineRun.mk part.first part.firstCount, part.secondCount)
  let added := hunk.parts.map fun part => (LineRun.mk part.second part.secondCount, part.firstCount)
  "***************" ++ view.headingOf first left.start ++ "\n*** " ++ left.numbers "," ++ " ****\n" ++
    (if hunk.removes then view.sidedLines first "-" left removed else "") ++
    "--- " ++ right.numbers "," ++ " ----\n" ++
    if hunk.adds then view.sidedLines second "+" right added else ""

/-- The lines from one place on, with those of parts; `last` is where they end. -/
def unifiedLines (view : DifferenceView) (first second : ComparedText) (last : Nat) :
    Nat → List Part → List String
  | place, [] => (LineRun.mk place (last - place)).places.map common
  | place, part :: rest =>
    (LineRun.mk place (part.first - place)).places.map common ++
      (LineRun.mk part.first part.firstCount).places.map (own "-" first) ++
      (LineRun.mk part.second part.secondCount).places.map (own "+" second) ++
      unifiedLines view first second last (part.first + part.firstCount) rest
where
  /-- A line that both texts have. -/
  common (place : Nat) : String :=
    let isBare := view.bareEmpty && (first.lineAt place).isEmpty && !first.isOpenAt place
    let mark := if isBare then "" else if view.tabFirst then "\t" else " "
    view.markedLine mark first place
  /-- A line of one text alone. -/
  own (mark : String) (text : ComparedText) (place : Nat) : String :=
    let isBare := view.bareEmpty && (text.lineAt place).isEmpty && !text.isOpenAt place
    view.markedLine (mark ++ if view.tabFirst && !isBare then "\t" else "") text place

/-- A hunk as the lines of both texts put together. -/
def unifiedHunk (view : DifferenceView) (first second : ComparedText) (hunk : Hunk) : String :=
  let left := hunk.first.widened view.context first.lines.size
  let right := hunk.second.widened view.context second.lines.size
  let head := "@@ -" ++ left.counts ++ " +" ++ right.counts ++ " @@"
  head ++ view.headingOf first left.start ++ "\n" ++
    String.join (view.unifiedLines first second left.last left.start hunk.parts)

end DifferenceView
end JavaStubs.Host

/-! ## Side by side

Two texts beside each other, with marks between those of their lines that differ.
-/
namespace JavaStubs.Host.SideBySide

open JavaStubs.Host.Alignment (Part)

/-- The shape of a page. -/
structure Layout where
  tabSize : Nat
  expandTabs : Bool
  /-- The width of a text. -/
  half : Nat
  /-- The column at which the second text begins. -/
  second : Nat

/-- The layout for a width: the texts are as wide as they can be, with at least three columns between
them; tabs in the second text count from a tab's end. -/
def Layout.ofView (view : DifferenceView) : Layout :=
  let step := if view.expandTabs then 1 else view.rule.tabSize
  let middle := (view.width + step + 3) / 2
  let column := middle - middle % step
  let half := min (column - 3) (view.width - column)
  ⟨view.rule.tabSize, view.expandTabs, half, if half = 0 then view.width else column⟩

/-- Blanks from one column up to another one, with tabs where they may stand; `fuel` bounds the number
of tabs. -/
def gap (layout : Layout) : Nat → Nat → Nat → String
  | 0, low, high => String.ofList (List.replicate (high - low) ' ')
  | fuel + 1, low, high =>
    let next := low + layout.tabSize - low % layout.tabSize
    if !layout.expandTabs && next ≤ high then "\t" ++ gap layout fuel next high
    else String.ofList (List.replicate (high - low) ' ')

/-- Blanks from one column up to another one. -/
def gapTo (layout : Layout) (low high : Nat) : String := gap layout (high + 1) low high

/-- A line as far as there is room for it: what is printed, and the column at which that ends. `inner` is
the column in the line, and `outer` the one that was reached. -/
def halfLine (layout : Layout) (indent : Nat) : Nat → Nat → List Char → List Char × Nat
  | _, outer, [] => ([], outer)
  | inner, outer, c :: rest =>
    match c with
    | '\t' =>
      let count := layout.tabSize - inner % layout.tabSize
      let stop := outer + count
      if inner ≠ outer then halfLine layout indent (inner + count) outer rest
      else if layout.expandTabs then
        let stop := min layout.half stop
        let (more, last) := halfLine layout indent (inner + count) (max outer stop) rest
        (List.replicate (stop - outer) ' ' ++ more, last)
      else if stop < layout.half then
        let (more, last) := halfLine layout indent (inner + count) stop rest
        (c :: more, last)
      else halfLine layout indent (inner + count) outer rest
    | '\r' =>
      let (more, last) := halfLine layout indent 0 0 rest
      (c :: (gapTo layout 0 indent).toList ++ more, last)
    | '\x08' =>
      if inner = 0 then halfLine layout indent inner outer rest
      else
        let inner := inner - 1
        if layout.half ≤ inner then halfLine layout indent inner outer rest
        else if outer ≤ inner then
          let (more, last) := halfLine layout indent inner inner rest
          (List.replicate (inner - outer) ' ' ++ more, last)
        else
          let (more, last) := halfLine layout indent inner inner rest
          (c :: more, last)
    | _ =>
      if isControl c then
        let (more, last) := halfLine layout indent inner outer rest
        (if inner < layout.half then c :: more else more, last)
      else if inner < layout.half then
        let (more, last) := halfLine layout indent (inner + 1) (inner + 1) rest
        (c :: more, last)
      else halfLine layout indent (inner + 1) outer rest

/-- A line of the page. -/
def row (layout : Layout) (first second : ComparedText) (left : Option Nat) (mark : Char)
    (right : Option Nat) : String :=
  let leftEnds := left.any fun place => !first.isOpenAt place
  let rightEnds := right.any fun place => !second.isOpenAt place
  let (start, column) := match left with
    | none => ([], 0)
    | some place => halfLine layout 0 0 0 (first.lineAt place).toList
  let mark := if mark == '|' && leftEnds != rightEnds then if leftEnds then '/' else '\\' else mark
  let spot := (layout.half + layout.second - 1) / 2
  let (middle, column) := if mark == ' ' then ("", column)
    else ((gapTo layout column spot).push mark, spot + 1)
  let rest := match right with
    | none => ""
    | some place =>
      let line := second.lineAt place
      if line.isEmpty then ""
      else gapTo layout column layout.second ++
        String.ofList (halfLine layout layout.second 0 0 line.toList).1
  String.ofList start ++ middle ++ rest ++ if leftEnds || rightEnds then "\n" else ""

/-- Lines that both texts have, from two places up to others. -/
def commonRows (view : DifferenceView) (layout : Layout) (first second : ComparedText)
    (x y right bottom : Nat) : List String :=
  if view.onlyDifferent then []
  else if view.leftOnly then
    (List.range (right - x)).map fun place => row layout first second (some (x + place)) '(' none
  else
    let count := min (right - x) (bottom - y)
    ((List.range count).map fun place =>
      row layout first second (some (x + place)) ' ' (some (y + place))) ++
    ((List.range (bottom - y - count)).map fun place =>
      row layout first second none ')' (some (y + count + place))) ++
    ((List.range (right - x - count)).map fun place =>
      row layout first second (some (x + count + place)) '(' none)

def partRows (layout : Layout) (first second : ComparedText) (part : Part) : List String :=
  let count := min part.firstCount part.secondCount
  ((List.range count).map fun place =>
    row layout first second (some (part.first + place)) '|' (some (part.second + place))) ++
  ((List.range (part.secondCount - count)).map fun place =>
    row layout first second none '>' (some (part.second + count + place))) ++
  ((List.range (part.firstCount - count)).map fun place =>
    row layout first second (some (part.first + count + place)) '<' none)

/-- The lines of a page from two places on. -/
def rowsFrom (view : DifferenceView) (layout : Layout) (first second : ComparedText) :
    Nat → Nat → List Part → List String
  | x, y, [] => commonRows view layout first second x y first.lines.size second.lines.size
  | x, y, part :: rest =>
    commonRows view layout first second x y part.first part.second ++
      partRows layout first second part ++
      rowsFrom view layout first second (part.first + part.firstCount)
        (part.second + part.secondCount) rest

def page (view : DifferenceView) (first second : ComparedText) (parts : List Part) : String :=
  let counting := parts.filter (!view.isTrivial first second ·)
  String.join (rowsFrom view (.ofView view) first second 0 0 counting)

end JavaStubs.Host.SideBySide

import Std.Data.HashMap
import JavaStubs.Host.Inputs

/-!
Alignments of two sequences: which members of each have no partner in the other, so that the others
are the same in order. A place in the middle of a shortest way from one sequence to the other parts
the task in two, again and again; the places of the members without partners are then moved, as far
as that changes nothing, to where they are best read.
-/
namespace JavaStubs.Host.Alignment

/-- Which members of two sequences have no partner in the other. -/
structure Changes where
  first : Array Bool
  second : Array Bool

/-- A part of each of two sequences. -/
structure Box where
  left : Int
  right : Int
  top : Int
  bottom : Int

/-- The member of a sequence at a place. -/
def memberAt (members : Array Nat) (place : Int) : Option Nat :=
  if place < 0 then none else members[place.toNat]?

/-! ## The middle of a way -/

/-- How far ways have come from both ends on each diagonal, and the diagonals that they are on. -/
structure Ways where
  /-- The number that is added to a diagonal for its place. -/
  base : Int
  front : Array Int
  back : Array Int
  frontLeast : Int
  frontMost : Int
  backLeast : Int
  backMost : Int

/-- What has been reached on a diagonal. -/
def reached (base : Int) (places : Array Int) (diagonal : Int) : Int :=
  places.getD (diagonal + base).toNat 0

/-- The number of pairs that are the same, one behind the other, from two places on; `fuel` bounds
it. -/
def sameAfter (same : Int → Int → Bool) (box : Box) : Nat → Int → Int → Int
  | 0, _, _ => 0
  | fuel + 1, x, y =>
    if x < box.right && y < box.bottom && same x y then sameAfter same box fuel (x + 1) (y + 1) + 1
    else 0

/-- The number of pairs that are the same, one in front of the other, up to two places. -/
def sameBefore (same : Int → Int → Bool) (box : Box) : Nat → Int → Int → Int
  | 0, _, _ => 0
  | fuel + 1, x, y =>
    if box.left < x && box.top < y && same (x - 1) (y - 1) then
      sameBefore same box fuel (x - 1) (y - 1) + 1
    else 0

/-- One more step from the front on each diagonal from one on downwards; the place where the ways meet,
if they do. -/
def stepFront (same : Int → Int → Bool) (box : Box) (odd : Bool) (length : Nat) :
    Nat → Int → Ways → Ways × Option (Int × Int)
  | 0, _, ways => (ways, none)
  | fuel + 1, diagonal, ways =>
    if diagonal < ways.frontLeast then (ways, none)
    else
      let low := reached ways.base ways.front (diagonal - 1)
      let high := reached ways.base ways.front (diagonal + 1)
      let start := if low < high then high else low + 1
      let x := start + sameAfter same box length start (start - diagonal)
      let ways := { ways with front := ways.front.set! (diagonal + ways.base).toNat x }
      if odd && ways.backLeast ≤ diagonal && diagonal ≤ ways.backMost &&
          reached ways.base ways.back diagonal ≤ x then (ways, some (x, x - diagonal))
      else stepFront same box odd length fuel (diagonal - 2) ways

/-- One more step from the back on each diagonal from one on downwards. -/
def stepBack (same : Int → Int → Bool) (box : Box) (odd : Bool) (length : Nat) :
    Nat → Int → Ways → Ways × Option (Int × Int)
  | 0, _, ways => (ways, none)
  | fuel + 1, diagonal, ways =>
    if diagonal < ways.backLeast then (ways, none)
    else
      let low := reached ways.base ways.back (diagonal - 1)
      let high := reached ways.base ways.back (diagonal + 1)
      let start := if low < high then low else high - 1
      let x := start - sameBefore same box length start (start - diagonal)
      let ways := { ways with back := ways.back.set! (diagonal + ways.base).toNat x }
      if !odd && ways.frontLeast ≤ diagonal && diagonal ≤ ways.frontMost &&
          x ≤ reached ways.base ways.front diagonal then (ways, some (x, x - diagonal))
      else stepBack same box odd length fuel (diagonal - 2) ways

/-- A place that no way from the back comes from. -/
def farAway : Int := 0x7FFFFFFFFFFFFFFF

/-- The ways with one more diagonal on each side from the front, as far as the box goes. -/
def Ways.wideFront (ways : Ways) (box : Box) : Ways :=
  let ways := if box.left - box.bottom < ways.frontLeast then
      { ways with
        frontLeast := ways.frontLeast - 1
        front := ways.front.set! (ways.frontLeast - 2 + ways.base).toNat (-1) }
    else { ways with frontLeast := ways.frontLeast + 1 }
  if ways.frontMost < box.right - box.top then
    { ways with
      frontMost := ways.frontMost + 1
      front := ways.front.set! (ways.frontMost + 2 + ways.base).toNat (-1) }
  else { ways with frontMost := ways.frontMost - 1 }

/-- The ways with one more diagonal on each side from the back, as far as the box goes. -/
def Ways.wideBack (ways : Ways) (box : Box) : Ways :=
  let ways := if box.left - box.bottom < ways.backLeast then
      { ways with
        backLeast := ways.backLeast - 1
        back := ways.back.set! (ways.backLeast - 2 + ways.base).toNat farAway }
    else { ways with backLeast := ways.backLeast + 1 }
  if ways.backMost < box.right - box.top then
    { ways with
      backMost := ways.backMost + 1
      back := ways.back.set! (ways.backMost + 2 + ways.base).toNat farAway }
  else { ways with backMost := ways.backMost - 1 }

/-- Where ways from both ends of a box meet; `fuel` bounds the number of steps. -/
def meeting (same : Int → Int → Bool) (box : Box) (odd : Bool) (length : Nat) :
    Nat → Ways → Int × Int
  | 0, _ => (box.left, box.top)
  | fuel + 1, ways =>
    let ways := ways.wideFront box
    match stepFront same box odd length length ways.frontMost ways with
    | (_, some place) => place
    | (ways, none) =>
      let ways := ways.wideBack box
      match stepBack same box odd length length ways.backMost ways with
      | (_, some place) => place
      | (ways, none) => meeting same box odd length fuel ways

/-- A place in the middle of a shortest way through a box. -/
def middle (same : Int → Int → Bool) (box : Box) : Int × Int :=
  let start := box.left - box.top
  let finish := box.right - box.bottom
  let length := (box.right - box.left + (box.bottom - box.top)).toNat + 3
  let base := box.bottom - box.left + 2
  let places := Array.replicate (length + 3) (0 : Int)
  let ways : Ways := ⟨base, places.set! (start + base).toNat box.left,
    places.set! (finish + base).toNat box.right, start, start, finish, finish⟩
  meeting same box ((start - finish) % 2 != 0) length length ways

/-- The members without partners in a box, added to those known; `fuel` bounds how often the box is
parted. -/
def compare (same : Int → Int → Bool) : Nat → Box → Changes → Changes
  | 0, _, changes => changes
  | fuel + 1, box, changes =>
    let length := (box.right - box.left).toNat
    let front := sameAfter same box length box.left box.top
    let box := { box with left := box.left + front, top := box.top + front }
    let back := sameBefore same box length box.right box.bottom
    let box := { box with right := box.right - back, bottom := box.bottom - back }
    let marked (marks : Array Bool) (low high : Int) : Array Bool :=
      (List.range (high - low).toNat).foldl (fun marks place =>
        marks.set! (low.toNat + place) true) marks
    if box.left = box.right then
      { changes with second := marked changes.second box.top box.bottom }
    else if box.top = box.bottom then
      { changes with first := marked changes.first box.left box.right }
    else
      let (x, y) := middle same box
      let changes := compare same fuel { box with right := x, bottom := y } changes
      compare same fuel { box with left := x, top := y } changes

/-! ## Members that are left out -/

/-- Whether a member takes part: one that the other sequence does not have does not, and one that it
has many of may not. -/
inductive Standing where
  | kept
  | doubtful
  | dropped
  deriving DecidableEq, Repr

/-- The greatest power of two whose square is not above a quarter of a number, at least one; `fuel`
bounds its size. -/
def halfRoot : Nat → Nat → Nat
  | fuel + 1, n => if 0 < n / 4 then 2 * halfRoot fuel (n / 4) else 1
  | 0, _ => 1

/-- A run with its doubtful members kept up to three dropped ones in a row, or up to a dropped one after
some; `place` and `inRow` count the members and the dropped ones in a row. -/
def withKeptFront (place inRow : Nat) : List Standing → List Standing
  | [] => []
  | standing :: rest =>
    if 8 ≤ place && standing = .dropped then standing :: rest
    else match standing with
      | .dropped =>
        if inRow = 2 then standing :: rest else standing :: withKeptFront (place + 1) (inRow + 1) rest
      | _ => .kept :: withKeptFront (place + 1) 0 rest

/-- A run in which as many doubtful members in a row as `least`, or more, are kept. -/
def withKeptRows (least : Nat) (run : List Standing) : List Standing :=
  (run.splitBy fun a b => (a == .doubtful) == (b == .doubtful)).flatMap fun row =>
    if least ≤ row.length then row.map fun standing =>
      if standing = .doubtful then .kept else standing
    else row

/-- A run that begins and ends with dropped members, its doubtful members settled. -/
def settledRun (run : List Standing) : List Standing :=
  if run.length < 4 * run.count .doubtful then
    run.map fun standing => if standing = .doubtful then .kept else standing
  else
    let least := halfRoot run.length (run.length / 4) + 1
    (withKeptFront 0 0 (withKeptFront 0 0 (withKeptRows least run)).reverse).reverse

/-- Standings with the doubtful ones settled: these are dropped only in the middle of runs of dropped
ones. `fuel` is at least their number. -/
def settled : Nat → List Standing → List Standing
  | 0, standings => standings
  | _ + 1, [] => []
  | fuel + 1, .dropped :: rest =>
    let run := (.dropped :: rest).takeWhile (· != Standing.kept)
    let behind := (.dropped :: rest).drop run.length
    let core := (run.reverse.dropWhile (· == Standing.doubtful)).reverse
    settledRun core ++ List.replicate (run.length - core.length) .kept ++ settled fuel behind
  | fuel + 1, _ :: rest => .kept :: settled fuel rest

def countsOf (members : Array Nat) : Array Nat :=
  let most := members.foldl max 0
  members.foldl (fun counts member => counts.modify member (· + 1)) (Array.replicate (most + 1) 0)

/-- The number of partners from which on a member of a long sequence is doubtful. -/
def doubtLimit (length : Nat) : Nat := 5 * halfRoot length (length / 64)

/-- The standings of the members of a sequence that is compared with another one. -/
def standings (members others : Array Nat) : List Standing :=
  let counts := countsOf others
  settled members.size (members.toList.map fun member =>
    let count := counts.getD member 0
    if count = 0 then .dropped
    else if doubtLimit members.size < count then .doubtful
    else .kept)

/-! ## Moving changes -/

def isChanged (changes : Array Bool) (place : Int) : Bool :=
  if place < 0 then false else changes.getD place.toNat false

/-- The first place from one on that has a partner; `fuel` bounds the distance. -/
def nextKept (changes : Array Bool) : Nat → Int → Int
  | 0, place => place
  | fuel + 1, place => if isChanged changes place then nextKept changes fuel (place + 1) else place

/-- The last place up to one that has a partner. -/
def lastKept (changes : Array Bool) : Nat → Int → Int
  | 0, place => place
  | fuel + 1, place => if isChanged changes place then lastKept changes fuel (place - 1) else place

/-- The first place of the changes that end in front of a place. -/
def runStart (changes : Array Bool) : Nat → Int → Int
  | 0, place => place
  | fuel + 1, place =>
    if isChanged changes (place - 1) then runStart changes fuel (place - 1) else place

/-- A run of changes that is moved: where it begins and ends, and the place in the other sequence that
its end corresponds to. -/
structure Run where
  changes : Array Bool
  start : Int
  stop : Int
  other : Int
  /-- The last end at which there were changes in the other sequence, too. -/
  shared : Int

/-- A run moved back as far as its last member is the same as the one in front of it. -/
def Run.movedBack (members : Array Nat) (others : Array Bool) : Nat → Run → Run
  | 0, run => run
  | fuel + 1, run =>
    if 0 < run.start && memberAt members (run.start - 1) = memberAt members (run.stop - 1) then
      let changes := (run.changes.set! (run.start - 1).toNat true).set! (run.stop - 1).toNat false
      movedBack members others fuel
        { run with
          changes
          start := runStart changes changes.size (run.start - 1)
          stop := run.stop - 1
          other := lastKept others others.size (run.other - 1) }
    else run

/-- A run moved on as far as its first member is the same as the one behind it. -/
def Run.movedOn (members : Array Nat) (others : Array Bool) : Nat → Run → Run
  | 0, run => run
  | fuel + 1, run =>
    if run.stop < members.size && memberAt members run.start = memberAt members run.stop then
      let changes := (run.changes.set! run.start.toNat false).set! run.stop.toNat true
      let stop := nextKept changes changes.size (run.stop + 1)
      let other := nextKept others others.size (run.other + 1)
      movedOn members others fuel
        { changes, start := run.start + 1, stop, other
          shared := if other = run.other + 1 then run.shared else stop }
    else run

/-- A run moved back and on until it meets no more changes. -/
def Run.merged (members : Array Nat) (others : Array Bool) : Nat → Run → Run
  | 0, run => run
  | fuel + 1, run =>
    let length := run.stop - run.start
    let back := run.movedBack members others (members.size + 1)
    let shared := if isChanged others (back.other - 1) then back.stop else members.size
    let moved := { back with shared }.movedOn members others (members.size + 1)
    if moved.stop - moved.start = length then moved else moved.merged members others fuel

/-- A run moved back to its last end at which there were changes in the other sequence, too. -/
def Run.aligned (others : Array Bool) : Nat → Run → Run
  | 0, run => run
  | fuel + 1, run =>
    if run.shared < run.stop then
      aligned others fuel
        { run with
          changes := (run.changes.set! (run.start - 1).toNat true).set! (run.stop - 1).toNat false
          start := run.start - 1
          stop := run.stop - 1
          other := lastKept others others.size (run.other - 1) }
    else run

/-- The changes of a sequence from a place on, moved to where they are best read; `other` is the place
in the other sequence, and `fuel` bounds the number of members. -/
def moved (members : Array Nat) (others : Array Bool) : Nat → Int → Int → Array Bool → Array Bool
  | 0, _, _, changes => changes
  | fuel + 1, place, other, changes =>
    if members.size ≤ place then changes
    else if !isChanged changes place then
      moved members others fuel (place + 1) (nextKept others others.size other + 1) changes
    else
      let stop := nextKept changes changes.size place
      let other := nextKept others others.size other
      let run := (Run.mk changes place stop other stop).merged members others (members.size + 1)
      let run := run.aligned others (members.size + 1)
      moved members others fuel run.stop run.other run.changes

/-! ## Alignments -/

/-- The places of the members that take part. -/
def keptPlaces (standings : List Standing) : Array Nat :=
  (standings.zipIdx.filterMap fun (standing, place) =>
    if standing = .dropped then none else some place).toArray

/-- The members of two sequences that have no partner in the other; `everything` says that none is left
out from the start. -/
def changes (everything : Bool) (first second : Array Nat) : Changes :=
  let all (members : Array Nat) : List Standing := List.replicate members.size .kept
  let firstStandings := if everything then all first else standings first second
  let secondStandings := if everything then all second else standings second first
  let firstPlaces := keptPlaces firstStandings
  let secondPlaces := keptPlaces secondStandings
  let same (x y : Int) : Bool :=
    first[firstPlaces.getD x.toNat 0]? == second[secondPlaces.getD y.toNat 0]?
  let box : Box := ⟨0, firstPlaces.size, 0, secondPlaces.size⟩
  let found := compare same (first.size + second.size + 1) box
    ⟨Array.replicate firstPlaces.size false, Array.replicate secondPlaces.size false⟩
  let spread (standings : List Standing) (places : Array Nat) (found : Array Bool) : Array Bool :=
    let dropped := (standings.map (· == Standing.dropped)).toArray
    (places.zip found).foldl (fun marks (place, mark) => marks.set! place mark) dropped
  let firstChanges := spread firstStandings firstPlaces found.first
  let secondChanges := spread secondStandings secondPlaces found.second
  let moves (members : Array Nat) (own others : Array Bool) : Array Bool :=
    moved members others (2 * members.size + 1) 0 0 own
  let firstChanges := moves first firstChanges secondChanges
  ⟨firstChanges, moves second secondChanges firstChanges⟩

/-! ## Parts -/

/-- A part in which two sequences differ: the places in front of it, and how many members of each
belong to it. -/
structure Part where
  first : Nat
  firstCount : Nat
  second : Nat
  secondCount : Nat
  deriving DecidableEq, Repr

/-- The parts in which sequences differ, from two places on; `fuel` is more than the number of members
of both. -/
def partsFrom (changes : Changes) : Nat → Nat → Nat → List Part
  | 0, _, _ => []
  | fuel + 1, x, y =>
    let right := (nextKept changes.first changes.first.size x).toNat
    let bottom := (nextKept changes.second changes.second.size y).toNat
    let rest := if right < changes.first.size || bottom < changes.second.size then
        partsFrom changes fuel (right + 1) (bottom + 1)
      else []
    if right = x && bottom = y then rest else ⟨x, right - x, y, bottom - y⟩ :: rest

/-- The parts in which two sequences differ. -/
def parts (everything : Bool) (first second : Array Nat) : List Part :=
  partsFrom (changes everything first second) (first.size + second.size + 1) 0 0

end JavaStubs.Host.Alignment

/-! ## Lines that differ

The lines in which two texts differ. Lines count as the same by a rule, which may leave letter case or
white space aside; a last line without an end is the same only as another such line, unless the rule
does not look at white space at the end of lines.
-/
namespace JavaStubs.Host

/-- A text that is compared with another one. -/
structure ComparedText where
  lines : Array String
  /-- Whether the last line has an end. -/
  isClosed : Bool
  deriving DecidableEq, Repr

namespace ComparedText

def ofText (text : String) : ComparedText :=
  ⟨(linesOf text).toArray, text.isEmpty || text.endsWith "\n"⟩

/-- Whether a line is the last one and has no end. -/
def isOpenAt (text : ComparedText) (place : Nat) : Bool :=
  !text.isClosed && place + 1 == text.lines.size

def lineAt (text : ComparedText) (place : Nat) : String := text.lines.getD place ""

end ComparedText

/-- What counts of the white space in lines. -/
inductive BlankRule where
  /-- All of it, or all but whether tabs are written as blanks, or that at the end of lines. -/
  | exact (anyTabs anyEnding : Bool)
  /-- Where there is some, but not how much; nothing at the end of lines. -/
  | places
  | nothing
  deriving DecidableEq, Repr

/-- What counts when lines are compared. -/
structure LineRule where
  blanks : BlankRule := .exact false false
  ignoreCase : Bool := false
  tabSize : Nat := 8

def isWhiteSpace (c : Char) : Bool := c == ' ' || (9 ≤ c.toNat && c.toNat ≤ 13)

namespace LineRule

/-- A line with one blank for each run of white space in it, and none at its end. -/
def withSingleBlanks : List Char → List Char
  | [] => []
  | c :: rest =>
    if !isWhiteSpace c then c :: withSingleBlanks rest
    else match withSingleBlanks rest with
      | [] => []
      | ' ' :: more => ' ' :: more
      | more => ' ' :: more

/-- A line with blanks for its tabs; `column` is that of its first character. -/
def withoutTabs (tabSize : Nat) : Nat → List Char → List Char
  | _, [] => []
  | column, '\t' :: rest =>
    let count := tabSize - column % tabSize
    List.replicate count ' ' ++ withoutTabs tabSize (column + count) rest
  | column, c :: rest =>
    let next := match c with
      | '\x08' => column - 1
      | '\r' => 0
      | _ => column + 1
    c :: withoutTabs tabSize next rest

/-- What counts of a line. -/
def key (rule : LineRule) (line : String) : String :=
  let chars := line.toList
  let chars := match rule.blanks with
    | .exact anyTabs anyEnding =>
      let chars := if anyEnding then Text.dropTrailing isWhiteSpace chars else chars
      if anyTabs then withoutTabs rule.tabSize 0 chars else chars
    | .places => withSingleBlanks chars
    | .nothing => chars.filter (!isWhiteSpace ·)
  String.ofList (if rule.ignoreCase then chars.map Char.toLower else chars)

/-- Whether a missing end sets a last line apart from others. -/
def countsEnds (rule : LineRule) : Bool := rule.blanks matches .exact _ false

end LineRule

/-- The number of lines at the start of two texts that are the same; `fuel` bounds it. -/
def sameLinesAfter (first second : ComparedText) : Nat → Nat → Nat
  | 0, _ => 0
  | fuel + 1, place =>
    if place < first.lines.size && place < second.lines.size &&
        first.lineAt place == second.lineAt place &&
        first.isOpenAt place == second.isOpenAt place then
      sameLinesAfter first second fuel (place + 1) + 1
    else 0

/-- The number of lines at the end of two texts that are the same, of as many as `fuel`; `place` is the
number of those passed. -/
def sameLinesBefore (first second : ComparedText) : Nat → Nat → Nat
  | 0, _ => 0
  | fuel + 1, place =>
    if first.lineAt (first.lines.size - 1 - place) ==
        second.lineAt (second.lines.size - 1 - place) then
      sameLinesBefore first second fuel (place + 1) + 1
    else 0

/-- Numbers for keys, the same ones for the same keys; `known` holds those given before. -/
def withNumbers (known : Std.HashMap (String × Bool) Nat) (keys : List (String × Bool)) :
    Std.HashMap (String × Bool) Nat × Array Nat :=
  keys.foldl (fun (known, numbers) key =>
    match known[key]? with
    | some number => (known, numbers.push number)
    | none => (known.insert key known.size, numbers.push known.size)) (known, #[])

/-- The parts in which two texts differ. What is the same at both ends is left out but for `horizon`
lines; `everything` says that no other lines are. -/
def LineRule.differences (rule : LineRule) (everything : Bool) (horizon : Nat)
    (first second : ComparedText) : List Alignment.Part :=
  let least := min first.lines.size second.lines.size
  let front := sameLinesAfter first second least 0 - horizon
  let back := if first.isClosed == second.isClosed
    then sameLinesBefore first second (least - front) 0 - horizon else 0
  let keys (text : ComparedText) : List (String × Bool) :=
    ((List.range (text.lines.size - front - back)).map fun place =>
      let place := front + place
      (rule.key (text.lineAt place), rule.countsEnds && text.isOpenAt place))
  let (known, firstNumbers) := withNumbers ∅ (keys first)
  let (_, secondNumbers) := withNumbers known (keys second)
  (Alignment.parts everything firstNumbers secondNumbers).map fun part =>
    { part with first := part.first + front, second := part.second + front }

end JavaStubs.Host

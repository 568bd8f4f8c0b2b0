/-!
Patterns for names: `*` stands for any text, `?` for any character, and a set in brackets for one of
its characters. A character that is quoted stands for itself. `matches_` tells whether a whole text
fits a pattern, and the cutting functions take away a part of a text that does.
-/
namespace JavaStubs.Host

/-- A member of a set of characters. -/
inductive SetItem where
  | range (low high : Char)
  | named (name : String)
  deriving DecidableEq, Repr

/-- Whether a character belongs to a class of characters, by the name of the class. -/
def inClass (name : String) (c : Char) : Bool :=
  match name with
  | "alpha" => c.isAlpha
  | "digit" => c.isDigit
  | "alnum" => c.isAlphanum
  | "upper" => c.isUpper
  | "lower" => c.isLower
  | "space" => c == ' ' || ('\x09' ≤ c && c ≤ '\x0d')
  | "blank" => c == ' ' || c == '\t'
  | "punct" => 0x20 < c.toNat && c.toNat < 0x7F && !c.isAlphanum
  | "print" => 0x20 ≤ c.toNat && c.toNat < 0x7F
  | "graph" => 0x20 < c.toNat && c.toNat < 0x7F
  | "cntrl" => c.toNat < 0x20 || c.toNat == 0x7F
  | "xdigit" => c.isDigit || ('a' ≤ c && c ≤ 'f') || ('A' ≤ c && c ≤ 'F')
  | _ => false

def SetItem.has : SetItem → Char → Bool
  | .range low high, c => low ≤ c && c ≤ high
  | .named name, c => inClass name c

/-- An element of a pattern. -/
inductive Glob where
  | many
  | one
  | set (negated : Bool) (items : List SetItem)
  | literal (c : Char)
  deriving DecidableEq, Repr

namespace Pattern

/-- A character of a pattern as it is written, and whether it is quoted. -/
abbrev Written := Char × Bool

/-- The name of a class at the start of a set's inside, and what is behind it. -/
def classAt : List Written → Option (String × List Written)
  | ('[', false) :: (':', _) :: rest =>
    let name := rest.takeWhile (·.1 != ':')
    match rest.drop name.length with
    | (':', _) :: (']', _) :: after => some (String.ofList (name.map Prod.fst), after)
    | _ => none
  | _ => none

/-- The members of a set up to its end, and what is behind it; nothing if it has no end. `fuel` is at
least the number of characters, and `first` says that none was read. -/
def itemsFrom : Nat → Bool → List Written → Option (List SetItem × List Written)
  | fuel + 1, first, text =>
    match classAt text, text with
    | some (name, rest), _ =>
      (itemsFrom fuel false rest).map fun (items, rest) => (.named name :: items, rest)
    | none, (c, quoted) :: rest =>
      if c == ']' && !quoted && !first then some ([], rest)
      else match rest with
        | ('-', false) :: (high, q) :: more =>
          if high == ']' && !q then
            (itemsFrom fuel false rest).map fun (items, rest) => (.range c c :: items, rest)
          else (itemsFrom fuel false more).map fun (items, rest) => (.range c high :: items, rest)
        | _ => (itemsFrom fuel false rest).map fun (items, rest) => (.range c c :: items, rest)
    | none, [] => none
  | 0, _, _ => none

/-- The set whose inside begins a text, and what is behind it. The inside of a negated one begins
with one of some signs. -/
def setAt (negations : List Char) (text : List Written) : Option (Glob × List Written) :=
  let (negated, inner) := match text with
    | (c, false) :: rest => if negations.contains c then (true, rest) else (false, text)
    | text => (false, text)
  (itemsFrom (inner.length + 1) true inner).map fun (items, rest) => (.set negated items, rest)

/-- The elements of a pattern; `fuel` is at least the number of characters. -/
def readFrom (negations : List Char) : Nat → List Written → List Glob
  | fuel + 1, (c, quoted) :: rest =>
    if quoted then .literal c :: readFrom negations fuel rest
    else match c with
      | '*' => .many :: readFrom negations fuel rest
      | '?' => .one :: readFrom negations fuel rest
      | '[' =>
        match setAt negations rest with
        | some (set, rest) => set :: readFrom negations fuel rest
        | none => .literal '[' :: readFrom negations fuel rest
      | '\\' =>
        match rest with
        | (next, _) :: rest => .literal next :: readFrom negations fuel rest
        | [] => [.literal '\\']
      | c => .literal c :: readFrom negations fuel rest
  | _, _ => []

/-- The elements of a pattern, in which an exclamation mark negates a set. -/
def read (text : List Written) : List Glob := readFrom ['!'] (text.length + 1) text

/-- The elements of a pattern without quotes, in which a caret negates a set, too. -/
def ofText (text : String) : List Glob :=
  readFrom ['!', '^'] (text.length + 1) (text.toList.map (·, false))

/-- Whether a pattern stands for more than one text. -/
def isOpen (pattern : List Glob) : Bool :=
  pattern.any fun
    | .literal _ => false
    | _ => true

/-- The ends of a list, the longest first. -/
def ends {α : Type} : List α → List (List α)
  | [] => [[]]
  | a :: rest => (a :: rest) :: ends rest

/-- Whether a whole text fits a pattern. -/
def matches_ : List Glob → List Char → Bool
  | [], text => text.isEmpty
  | .many :: rest, text => (ends text).any (matches_ rest)
  | .one :: rest, text =>
    match text with
    | _ :: text => matches_ rest text
    | [] => false
  | .set negated items :: rest, text =>
    match text with
    | c :: text => items.any (·.has c) != negated && matches_ rest text
    | [] => false
  | .literal l :: rest, text =>
    match text with
    | c :: text => c == l && matches_ rest text
    | [] => false

/-- A pattern of literal characters stands for one text. -/
theorem matches_literal (word text : List Char) :
    matches_ (word.map Glob.literal) text = decide (text = word) := by
  induction word generalizing text with
  | nil => cases text <;> simp [matches_]
  | cons c rest ih =>
    cases text with
    | nil => simp [matches_]
    | cons d text => by_cases h : d = c <;> simp [matches_, ih, h]

/-- The lengths of the parts at the start of a text that fit a pattern, the shortest first. -/
def fittingStarts (pattern : List Glob) (text : List Char) : List Nat :=
  (List.range (text.length + 1)).filter fun length => matches_ pattern (text.take length)

/-- A text without the part at its start that fits a pattern, the shortest or the longest one. -/
def cutStart (longest : Bool) (pattern : List Glob) (text : List Char) : List Char :=
  let lengths := fittingStarts pattern text
  text.drop ((if longest then lengths.getLast? else lengths.head?).getD 0)

/-- A text without the part at its end that fits a pattern, the shortest or the longest one. -/
def cutEnd (longest : Bool) (pattern : List Glob) (text : List Char) : List Char :=
  let kept := (List.range (text.length + 1)).filter fun length => matches_ pattern (text.drop length)
  text.take ((if longest then kept.head? else kept.getLast?).getD text.length)

end Pattern
end JavaStubs.Host

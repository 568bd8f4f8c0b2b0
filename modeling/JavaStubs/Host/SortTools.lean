import JavaStubs.Host.Inputs
import JavaStubs.Host.Process

/-!
Orders of texts: by their octets, by the numbers that they begin with, by months, or by versions.
A key names the part of a line that counts, and the order in which it counts.
-/
namespace JavaStubs.Host

/-- What texts are taken for when they are compared. -/
inductive KeyKind where
  | text
  /-- A number in digits. -/
  | number
  /-- A number with an exponent. -/
  | general
  /-- A number with a letter for its size. -/
  | sized
  | month
  | version
  deriving DecidableEq, Repr

/-- How a key is compared. -/
structure KeyOrder where
  kind : KeyKind
  reverse : Bool
  foldCase : Bool
  skipBlanks : Bool
  dictionary : Bool
  printable : Bool

/-- A key: the part of a line from a place to another, each a field and a character of it, counted
from one; no last character stands for the end of the field. -/
structure SortKey where
  start : Nat × Nat
  stop : Option (Nat × Nat)
  order : Option KeyOrder
  /-- Whether the place where it starts is counted from behind the blanks of a field. -/
  startSkips : Bool
  /-- Whether the place where it stops is. -/
  stopSkips : Bool

def kindLetters : List (Char × KeyKind) :=
  [('n', .number), ('g', .general), ('h', .sized), ('M', .month), ('V', .version)]

def KeyOrder.ofLetters (letters : List Char) : KeyOrder where
  kind := ((kindLetters.find? fun (letter, _) => letters.contains letter).map Prod.snd).getD .text
  reverse := letters.contains 'r'
  foldCase := letters.contains 'f'
  skipBlanks := letters.contains 'b'
  dictionary := letters.contains 'd'
  printable := letters.contains 'i'

/-- The letters of kinds that cannot go together. -/
def clashingLetters? (letters : List Char) : Option String :=
  let kinds := letters.filter fun letter => kindLetters.any (·.1 == letter)
  let shapes := "di".toList.filter letters.contains
  let count := kinds.eraseDups.length + if shapes.isEmpty then 0 else 1
  if 1 < count && !(kinds.eraseDups == ['V'] && shapes.isEmpty) then
    some (String.ofList ("dfghiMnRV".toList.filter letters.contains))
  else none

/-- Why a key is refused. -/
inductive KeyFault where
  | zeroField (spec : String)
  | zeroOffset (spec : String)
  | stray (spec : String)
  | noField (text : String)
  | noLastField (text : String)
  | noOffset (text : String)
  deriving DecidableEq, Repr

def KeyFault.message : KeyFault → String
  | .zeroField spec => s!"field number is zero: invalid field specification {quotedName spec}"
  | .zeroOffset spec => s!"character offset is zero: invalid field specification {quotedName spec}"
  | .stray spec => s!"stray character in field spec: invalid field specification {quotedName spec}"
  | .noField text =>
    s!"invalid number at field start: invalid count at start of {quotedName text}"
  | .noLastField text => s!"invalid number after ',': invalid count at start of {quotedName text}"
  | .noOffset text => s!"invalid number after '.': invalid count at start of {quotedName text}"

/-- The number at the start of a text, and what is behind it. -/
def countAt (fault : String → KeyFault) (text : List Char) : Except KeyFault (Nat × List Char) :=
  let digits := text.takeWhile Char.isDigit
  match (String.ofList digits).toNat? with
  | some n => .ok (n, text.drop digits.length)
  | none => .error (fault (String.ofList text))

/-- The place at the start of a text, with the letters for ways to compare, and what is behind. -/
def keyPlace (fault : String → KeyFault) (spec : String) (text : List Char) :
    Except KeyFault (Nat × Option Nat × List Char × List Char) := do
  let (field, rest) ← countAt fault text
  if field = 0 then throw (.zeroField spec)
  let (char, rest) : Option Nat × List Char ← match rest with
    | '.' :: more => do
      let (char, more) ← countAt .noOffset more
      pure (some char, more)
    | rest => pure (none, rest)
  let letters := rest.takeWhile "bdfghiMnRrV".toList.contains
  return (field, char, letters, rest.drop letters.length)

/-- The key that a text describes. -/
def SortKey.ofText (spec : String) : Except KeyFault (SortKey × List Char) := do
  let (field, char, letters, rest) ← keyPlace .noField spec spec.toList
  if char = some 0 then throw (.zeroOffset spec)
  let (stop, more, rest) : Option (Nat × Nat) × List Char × List Char ← match rest with
    | ',' :: rest => do
      let (field, char, letters, rest) ← keyPlace .noLastField spec rest
      pure (some (field, char.getD 0), letters, rest)
    | rest => pure (none, [], rest)
  if !rest.isEmpty then throw (.stray spec)
  let all := letters ++ more
  let order := if all.isEmpty then none else some (KeyOrder.ofLetters all)
  return (⟨(field, char.getD 1), stop, order, letters.contains 'b', more.contains 'b'⟩, all)

/-- Whether a character is a blank between fields. -/
def isFieldBlank (c : Char) : Bool := c == ' ' || c == '\t'

/-- The fields of a line, each with the blanks in front of it; `fuel` is at least its length. -/
def blankFields : Nat → List Char → List (List Char)
  | 0, _ => []
  | _ + 1, [] => []
  | fuel + 1, line =>
    let blanks := line.takeWhile isFieldBlank
    let word := (line.drop blanks.length).takeWhile (!isFieldBlank ·)
    (blanks ++ word) :: blankFields fuel (line.drop (blanks.length + word.length))

/-- The fields of a line with the separators that end them. -/
def fieldsWithEnds (separator : Option Char) (line : List Char) : List (List Char) :=
  match separator with
  | none => blankFields (line.length + 1) line
  | some c =>
    let fields := Text.fields (· == c) line
    fields.dropLast.map (· ++ [c]) ++ (fields.getLast?).toList

/-- The part of a line that a key names. -/
def SortKey.part (key : SortKey) (separator : Option Char) (line : List Char) : List Char :=
  let fields := fieldsWithEnds separator line
  let offset (field : Nat) := (fields.take (field - 1)).flatten.length
  let skipped (skips : Bool) (field : Nat) :=
    if skips then (((fields[field - 1]?).getD []).takeWhile isFieldBlank).length else 0
  let start := offset key.start.1 + skipped key.startSkips key.start.1 + (key.start.2 - 1)
  let stop := match key.stop with
    | none => line.length
    | some (field, 0) =>
      let body := (fields[field - 1]?).getD []
      let body := match separator with
        | some c => if body.getLast? = some c then body.dropLast else body
        | none => body
      offset field + body.length
    | some (field, char) => offset field + skipped key.stopSkips field + char
  (line.take stop).drop start

/-- The number at the start of a text: its sign, its whole part, and the digits of its fraction. -/
def leadingQuantity (text : List Char) : Bool × Nat × List Char :=
  let text := text.dropWhile isFieldBlank
  let (negative, text) : Bool × List Char := match text with
    | '-' :: rest => (true, rest)
    | text => (false, text)
  let whole := text.takeWhile Char.isDigit
  let fraction := match text.drop whole.length with
    | '.' :: rest => Text.dropTrailing (· == '0') (rest.takeWhile Char.isDigit)
    | _ => []
  (negative, (String.ofList whole).toNat?.getD 0, fraction)

/-- How two texts compare as numbers. -/
def compareQuantities (a b : List Char) : Ordering :=
  let (negativeA, wholeA, fractionA) := leadingQuantity a
  let (negativeB, wholeB, fractionB) := leadingQuantity b
  let isZero (whole : Nat) (fraction : List Char) := whole = 0 && fraction.isEmpty
  let magnitude := (compare wholeA wholeB).then (compareOfLessAndEq fractionA fractionB)
  let negativeA := negativeA && !isZero wholeA fractionA
  let negativeB := negativeB && !isZero wholeB fractionB
  match negativeA, negativeB with
  | false, false => magnitude
  | true, true => magnitude.swap
  | true, false => .lt
  | false, true => .gt

/-! ## Numbers with exponents -/

/-- The number at the start of a text: nothing if there is none, else a whole number and the number
of its digits that stand behind the point. -/
def leadingDecimal (text : List Char) : Option (Int × Int) :=
  let text := text.dropWhile fun c => isFieldBlank c
  let (negative, text) : Bool × List Char := match text with
    | '-' :: rest => (true, rest)
    | '+' :: rest => (false, rest)
    | text => (false, text)
  let whole := text.takeWhile Char.isDigit
  let rest := text.drop whole.length
  let (fraction, rest) : List Char × List Char := match rest with
    | '.' :: more =>
      let digits := more.takeWhile Char.isDigit
      (digits, more.drop digits.length)
    | rest => ([], rest)
  if whole.isEmpty && fraction.isEmpty then none
  else
    let digits := (String.ofList (whole ++ fraction)).toNat?.getD 0
    let exponent : Int := match rest with
      | e :: more =>
        if e != 'e' && e != 'E' then 0
        else
          let (down, more) : Bool × List Char := match more with
            | '-' :: more => (true, more)
            | '+' :: more => (false, more)
            | more => (false, more)
          let size : Int := ((String.ofList (more.takeWhile Char.isDigit)).toNat?.getD 0 : Nat)
          if down then -size else size
      | [] => 0
    some (if negative then -(digits : Int) else digits, fraction.length - exponent)

/-- How two texts compare by the numbers with exponents that they begin with; a text without a number
comes first. -/
def compareDecimals (a b : List Char) : Ordering :=
  match leadingDecimal a, leadingDecimal b with
  | none, none => .eq
  | none, some _ => .lt
  | some _, none => .gt
  | some (x, behindX), some (y, behindY) =>
    let least := min behindX behindY
    compare (x * Int.pow 10 (min 5000 (behindY - least).toNat))
      (y * Int.pow 10 (min 5000 (behindX - least).toNat))

/-! ## Sizes -/

/-- The letters for sizes, from the least on. -/
def sizeLetters : List Char := "KMGTPEZY".toList

/-- The rank of the size that a text begins with; it is negative if the number is. -/
def sizeRank (text : List Char) : Int :=
  let text := text.dropWhile isFieldBlank
  let (negative, text) : Bool × List Char := match text with
    | '-' :: rest => (true, rest)
    | text => (false, text)
  let number := text.takeWhile fun c => c.isDigit || c == '.'
  let rank : Nat := match text.drop number.length with
    | c :: _ =>
      let letter := if c == 'k' then 'K' else c
      ((sizeLetters.findIdx? (· == letter)).map (· + 1)).getD 0
    | [] => 0
  if number.any fun c => c.isDigit && c != '0' then (if negative then -rank else rank) else 0

/-- How two texts compare by the sizes that they begin with. -/
def compareSizes (a b : List Char) : Ordering :=
  (compare (sizeRank a) (sizeRank b)).then (compareQuantities a b)

/-! ## Months -/

def monthNames : List String :=
  ["JAN", "FEB", "MAR", "APR", "MAY", "JUN", "JUL", "AUG", "SEP", "OCT", "NOV", "DEC"]

/-- The number of the month that a text begins with, and zero if it begins with none. -/
def monthRank (text : List Char) : Nat :=
  let name := String.ofList (((text.dropWhile isFieldBlank).take 3).map Char.toUpper)
  ((monthNames.findIdx? (· == name)).map (· + 1)).getD 0

/-! ## Versions -/

/-- The rank of the character at the start of a text among those that are no digits: the end comes
behind a tilde, then come digits, letters and all else. -/
def versionRank : List Char → Int
  | [] => -1
  | c :: _ =>
    if c.isDigit then 0
    else if c.isAlpha then c.toNat
    else if c == '~' then -2
    else c.toNat + 256

/-- How two texts compare up to the digits that come next, and what is behind. -/
def compareUndigited : Nat → List Char → List Char → Except Ordering (List Char × List Char)
  | 0, a, b => .ok (a, b)
  | fuel + 1, a, b =>
    let goesOn (text : List Char) := (text.head?.map fun c => !c.isDigit).getD false
    if !goesOn a && !goesOn b then .ok (a, b)
    else match compare (versionRank a) (versionRank b) with
      | .eq => compareUndigited fuel (a.drop 1) (b.drop 1)
      | found => .error found

/-- How two texts compare by turns as characters and as numbers; `fuel` is more than their lengths. -/
def compareParts : Nat → List Char → List Char → Ordering
  | 0, _, _ => .eq
  | _ + 1, [], [] => .eq
  | fuel + 1, a, b =>
    match compareUndigited (a.length + b.length + 1) a b with
    | .error found => found
    | .ok (a, b) =>
      let digitsA := a.takeWhile Char.isDigit
      let digitsB := b.takeWhile Char.isDigit
      let number (digits : List Char) := (String.ofList digits).toNat?.getD 0
      (compare (number digitsA) (number digitsB)).then
        (compareParts fuel (a.drop digitsA.length) (b.drop digitsB.length))

/-- The length of the endings, such as those of file names, that a text begins with; `fuel` is at
least its length. -/
def endingsLength : Nat → List Char → Nat
  | fuel + 1, '.' :: c :: rest =>
    if c.isAlpha || c == '~' then
      let more := rest.takeWhile fun d => d.isAlphanum || d == '~'
      2 + more.length + endingsLength fuel (rest.drop more.length)
    else 0
  | _, _ => 0

/-- The length of a text without the endings behind it. -/
def stemLength : Nat → List Char → Nat
  | _, [] => 0
  | place, _ :: rest =>
    if rest.isEmpty || endingsLength rest.length rest = rest.length then place + 1
    else stemLength (place + 1) rest

/-- How two texts compare as versions. -/
def compareVersions (a b : List Char) : Ordering :=
  let special (text : List Char) : Nat := match text with
    | [] => 0
    | ['.'] => 1
    | ['.', '.'] => 2
    | '.' :: _ => 3
    | _ => 4
  let stemA := a.take (stemLength 0 a)
  let stemB := b.take (stemLength 0 b)
  let parts (a b : List Char) := compareParts (a.length + b.length + 2) a b
  (compare (special a) (special b)).then ((parts stemA stemB).then (parts a b))

/-! ## All of them -/

/-- How two parts of lines compare. -/
def KeyOrder.compare (order : KeyOrder) (a b : List Char) : Ordering :=
  let shaped (text : List Char) : List Char :=
    let text := if order.dictionary then text.filter fun c => c.isAlphanum || isFieldBlank c else text
    let text := if order.printable then text.filter fun c => ' ' ≤ c && c ≤ '~' else text
    if order.foldCase then text.map Char.toUpper else text
  let found := match order.kind with
    | .text => compareOfLessAndEq (shaped a) (shaped b)
    | .number => compareQuantities a b
    | .general => compareDecimals a b
    | .sized => compareSizes a b
    | .month => Ord.compare (monthRank a) (monthRank b)
    | .version => compareVersions (shaped a) (shaped b)
  if order.reverse then found.swap else found

/-- How two lines compare by keys. -/
def compareKeys (keys : List SortKey) (standard : KeyOrder) (separator : Option Char)
    (a b : List Char) : Ordering :=
  let keys := if keys.isEmpty then [⟨(1, 1), none, none, false, false⟩] else keys
  keys.foldl (fun found key =>
    let (key, order) : SortKey × KeyOrder := match key.order with
      | some order => (key, order)
      | none =>
        let skips := standard.skipBlanks
        ({ key with startSkips := skips, stopSkips := skips }, standard)
    let part := key.part separator
    found.then (order.compare (part a) (part b))) .eq

/-! ## Ordering lines

The program that orders lines. Texts are ordered by their octets.
-/

open Work

/-- A list without the elements that are equal to the one before. -/
def withoutRepeats {α : Type} (same : α → α → Bool) : List α → List α
  | [] => []
  | [a] => [a]
  | a :: b :: rest =>
    if same a b then withoutRepeats same (a :: rest) else a :: withoutRepeats same (b :: rest)

/-- The place of the first line that is out of order. -/
def firstDisorder (inOrder : List Char → List Char → Bool) : Nat → List (List Char) →
    Option (Nat × List Char)
  | place, a :: b :: rest =>
    if inOrder a b then firstDisorder inOrder (place + 1) (b :: rest) else some (place + 1, b)
  | _, _ => none

/-- Two ordered lists put together into one; `fuel` is at least the sum of their lengths. -/
def mergedBy {α : Type} (inOrder : α → α → Bool) : Nat → List α → List α → List α
  | fuel + 1, a :: as, b :: bs =>
    if inOrder a b then a :: mergedBy inOrder fuel as (b :: bs)
    else b :: mergedBy inOrder fuel (a :: as) bs
  | _, as, bs => as ++ bs

/-- The pieces of a text that an end stands behind; the last one may do without. -/
def piecesOf (ending : Char) (text : String) : List String :=
  let found := Text.fieldsOf ending text
  if found.getLast? = some "" then found.dropLast else found

def sortWords : List (String × Char) :=
  [("general-numeric", 'g'), ("human-numeric", 'h'), ("month", 'M'), ("numeric", 'n'),
    ("random", 'R'), ("version", 'V')]

/-- Prints the lines of texts in order. -/
def sort : Work Unit :=
  withOptions (options "bcCdfghimMnrRsuVz" "kotST\x01" [("numeric-sort", 'n'), ("reverse", 'r'),
    ("unique", 'u'), ("ignore-case", 'f'), ("key", 'k'), ("field-separator", 't'),
    ("output", 'o'), ("check", 'c'), ("stable", 's'), ("ignore-leading-blanks", 'b'),
    ("dictionary-order", 'd'), ("general-numeric-sort", 'g'), ("human-numeric-sort", 'h'),
    ("ignore-nonprinting", 'i'), ("merge", 'm'), ("month-sort", 'M'), ("version-sort", 'V'),
    ("zero-terminated", 'z'), ("sort", '\x01'), ("buffer-size", 'S'),
    ("temporary-directory", 'T')]) 2
    fun given => do
    let named := given.options.filterMap fun (letter, value) =>
      if letter == '\x01' then sortWords.lookup value else none
    let letters := named ++ given.options.map Prod.fst
    let read := (given.options.filter (·.1 == 'k')).mapM fun (_, text) => SortKey.ofText text
    match read, given.value? 't' with
    | .error fault, _ => complain fault.message 2
    | _, some "" => complain "empty tab" 2
    | .ok keys, separator =>
      let clashes := (keys.filterMap fun (_, letters) => clashingLetters? letters) ++
        (clashingLetters? letters).toList
      match separatorOf? separator, clashes with
      | none, _ =>
        let text := separator.getD ""
        complain s!"multi-character tab {quotedName text}" 2
      | _, clash :: _ => complain s!"options '-{clash}' are incompatible" 2
      | some separator, [] =>
        if letters.contains 'c' && letters.contains 'C' then
          complain "options '-cC' are incompatible" 2
        else work given letters (keys.map Prod.fst) separator
where
  /-- The character between fields that an option gives: nothing for one that gives none. -/
  separatorOf? : Option String → Option (Option Char)
    | none => some none
    | some "\\0" => some (some '\x00')
    | some text => match text.toList with
      | [c] => some (some c)
      | _ => none
  /-- Sorts as options ask for. -/
  work (given : Invocation) (letters : List Char) (keys : List SortKey)
      (separator : Option Char) : Work Unit := do
    let standard := KeyOrder.ofLetters letters
    let byKeys := compareKeys keys standard separator
    let isUnique := letters.contains 'u'
    let whole (a b : List Char) : Ordering :=
      let found := compareOfLessAndEq a b
      if standard.reverse then found.swap else found
    let order (a b : List Char) : Ordering :=
      let found := byKeys a b
      if isUnique || letters.contains 's' then found else found.then (whole a b)
    let ending := if letters.contains 'z' then '\x00' else '\n'
    let checks := letters.contains 'c' || letters.contains 'C'
    match given.operands, checks with
    | _ :: extra :: _, true =>
      let letter := if letters.contains 'c' then 'c' else 'C'
      complain s!"extra operand {quotedName extra} not allowed with -{letter}" 2
    | operands, checks =>
      let failed := (← get).code
      let texts ← readable ending operands
      if (← get).code ≠ failed then return
      let texts := texts.map (·.map String.toList)
      if checks then
        let inOrder (a b : List Char) := if isUnique then order a b == .lt else order a b != .gt
        if let some (place, line) := firstDisorder inOrder 1 texts.flatten then
          if letters.contains 'c' then
            let name := operands.head?.getD "-"
            complain s!"{name}:{place}: disorder: {String.ofList line}" 1
          else fail 1
      else
        let inOrder (a b : List Char) : Bool := order a b != .gt
        let sorted := if letters.contains 'm'
          then texts.foldl (fun all lines =>
            mergedBy inOrder (all.length + lines.length) all lines) []
          else texts.flatten.mergeSort inOrder
        let sorted := if isUnique then withoutRepeats (fun a b => byKeys a b == .eq) sorted
          else sorted
        let output := String.join (sorted.map fun line => (String.ofList line).push ending)
        match given.value? 'o' with
        | none => say output
        | some name =>
          if let .error cause ← writeText name output false then
            complain s!"open failed: {shownName name}: {cause.wording}" 2
  /-- The lines of each text; nothing is sorted if one of them cannot be read. -/
  readable (ending : Char) (names : List String) : Work (List (List String)) :=
    (orInput names).mapM fun name => do
      if (← get).code ≠ 0 then return []
      match ← textOf name with
      | .ok text => return piecesOf ending text
      | .error .isDirectory =>
        complain s!"read failed: {shownName name}: {OsCause.isDirectory.wording}" 2
        return []
      | .error cause =>
        complain s!"cannot read: {shownName name}: {cause.wording}" 2
        return []

end JavaStubs.Host

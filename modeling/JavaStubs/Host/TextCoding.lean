import JavaStubs.Host.Inputs
import JavaStubs.Text.Hexadecimal

namespace JavaStubs.Host

open Work

namespace Dump

/-- How an item of some octets is shown. -/
inductive Style where
  /-- A character, or an escape for it. -/
  | character
  /-- A character or its name. -/
  | named
  | octal
  | hexadecimal
  | unsigned
  | signed
  deriving DecidableEq, Repr

/-- A row of items: their style, the number of octets of each, and whether the octets are shown as
characters behind it. -/
structure Row where
  style : Style
  size : Nat
  shows : Bool
  deriving DecidableEq, Repr

/-- The number of characters of the longest item. -/
def Row.fieldWidth (row : Row) : Nat :=
  let digits (base bound : Nat) : Nat := (Nat.toDigits base (bound - 1)).length
  let bound := Nat.pow 256 row.size
  match row.style with
  | .character => 3
  | .named => 3
  | .octal => digits 8 bound
  | .hexadecimal => 2 * row.size
  | .unsigned => digits 10 bound
  | .signed => digits 10 (bound / 2) + 1

def controlNames : List String :=
  ["nul", "soh", "stx", "etx", "eot", "enq", "ack", "bel", "bs", "ht", "nl", "vt", "ff", "cr", "so",
    "si", "dle", "dc1", "dc2", "dc3", "dc4", "nak", "syn", "etb", "can", "em", "sub", "esc", "fs",
    "gs", "rs", "us", "sp"]

/-- A number in digits of a base, with zeros in front. -/
def padded (base width n : Nat) : String :=
  let digits := String.ofList (Nat.toDigits base n)
  Text.repeated "0" (width - digits.length) ++ digits

/-- An item in its style. -/
def Row.item (row : Row) (value : Nat) : String :=
  match row.style with
  | .character =>
    match value with
    | 0 => "\\0"
    | 7 => "\\a"
    | 8 => "\\b"
    | 9 => "\\t"
    | 10 => "\\n"
    | 11 => "\\v"
    | 12 => "\\f"
    | 13 => "\\r"
    | n => if 32 ≤ n && n < 127 then String.singleton (Char.ofNat n) else padded 8 3 n
  | .named =>
    let low := value % 128
    if low = 127 then "del"
    else (controlNames[low]?).getD (String.singleton (Char.ofNat low))
  | .octal => padded 8 row.fieldWidth value
  | .hexadecimal => padded 16 row.fieldWidth value
  | .unsigned => toString value
  | .signed =>
    let bound := Nat.pow 256 row.size
    toString (if 2 * value < bound then (value : Int) else (value : Int) - bound)

/-- The number that octets stand for; the first one counts least, unless `big` says otherwise. -/
def number (big : Bool) (octets : List Char) : Nat :=
  (if big then octets else octets.reverse).foldl (fun n c => 256 * n + c.toNat) 0

/-- The items of some octets each; `fuel` is at least the number of octets. Octets that are missing
at the end count as zero. -/
def itemsOf (size : Nat) : Nat → List Char → List (List Char)
  | 0, _ => []
  | _ + 1, [] => []
  | fuel + 1, octets =>
    let item := octets.take size
    (item ++ List.replicate (size - item.length) '\x00') :: itemsOf size fuel (octets.drop size)

/-- How octets are shown. -/
structure View where
  /-- The base of places, and the number of their digits; none are shown without it. -/
  radix : Option (Nat × Nat)
  rows : List Row
  width : Nat
  /-- Whether lines that say the same as the one before are left out. -/
  shortens : Bool
  big : Bool

def View.place (view : View) (n : Nat) : String :=
  match view.radix with
  | some (base, width) => padded base width n
  | none => ""

/-- The items of a row, each in a column; `spread` is the width of the widest row. -/
def View.row (view : View) (spread : Nat) (row : Row) (octets : List Char) : String :=
  let count := view.width / row.size
  let width := row.fieldWidth
  let slack := spread - count * (width + 1)
  let blanks (place : Nat) : Nat := slack * (count - place) / count
  let items := itemsOf row.size octets.length octets
  let fields := items.zipIdx.map fun (item, place) =>
    let text := row.item (number view.big item)
    let room := width + blanks place - blanks (place + 1)
    " " ++ Text.repeated " " (room - text.length) ++ text
  let missing := count - items.length
  let behind := if !row.shows then ""
    else
      let gap := missing * (width + 1) + slack * missing / count
      let shown := octets.map fun c => if ' ' ≤ c && c ≤ '~' then c else '.'
      Text.repeated " " gap ++ "  >" ++ String.ofList shown ++ "<"
  String.join fields ++ behind

/-- All rows for the octets of a line. -/
def View.line (view : View) (place : Nat) (octets : List Char) : String :=
  let spread := (view.rows.map fun row => view.width / row.size * (row.fieldWidth + 1)).foldl max 0
  let margin := Text.repeated " " ((view.radix.map Prod.snd).getD 0)
  String.join (view.rows.zipIdx.map fun (row, n) =>
    (if n = 0 then view.place place else margin) ++ view.row spread row octets ++ "\n")

/-- The lines for octets from a place on; `fuel` is more than their number. The line before counts,
and `left` says that it was left out. -/
def View.linesFrom (view : View) : Nat → Nat → Option (List Char) → Bool → List Char → List String
  | 0, _, _, _, _ => []
  | _ + 1, _, _, _, [] => []
  | fuel + 1, place, before, left, octets =>
    let line := octets.take view.width
    let rest := octets.drop view.width
    if view.shortens && before == some line then
      let more := view.linesFrom fuel (place + line.length) before true rest
      if left then more else "*\n" :: more
    else view.line place line ::
      view.linesFrom fuel (place + line.length) (some line) false rest

/-- All lines for octets, and the place behind them. -/
def View.show_ (view : View) (start : Nat) (octets : List Char) : String :=
  String.join (view.linesFrom (octets.length + 1) start none false octets) ++
    (if view.radix.isSome then view.place (start + octets.length) ++ "\n" else "")

/-! ## Ways to ask for rows -/

/-- Why rows are refused. -/
inductive RowFault where
  | unknown (c : Char) (text : String)
  | size (n : Nat) (text : String)
  deriving DecidableEq, Repr

/-- The rows that a text describes; `fuel` is more than its length. -/
def rowsOf (all : String) : Nat → List Char → Except RowFault (List Row)
  | 0, _ => .ok []
  | _ + 1, [] => .ok []
  | fuel + 1, c :: rest => do
    let styles : List (Char × Style) :=
      [('o', .octal), ('x', .hexadecimal), ('u', .unsigned), ('d', .signed)]
    let (row, rest) : Row × List Char ← match c, styles.lookup c with
      | 'a', _ => pure (⟨.named, 1, false⟩, rest)
      | 'c', _ => pure (⟨.character, 1, false⟩, rest)
      | _, some style =>
        let digits := rest.takeWhile Char.isDigit
        let (size, rest) : Nat × List Char := match rest with
          | 'C' :: rest => (1, rest)
          | 'S' :: rest => (2, rest)
          | 'I' :: rest => (4, rest)
          | 'L' :: rest => (8, rest)
          | rest => ((String.ofList digits).toNat?.getD 4, rest.drop digits.length)
        if [1, 2, 4, 8].contains size then pure (⟨style, size, false⟩, rest)
        else throw (.size size all)
      | c, none => throw (.unknown c all)
    let (row, rest) : Row × List Char := match rest with
      | 'z' :: rest => ({ row with shows := true }, rest)
      | rest => (row, rest)
    return row :: (← rowsOf all fuel rest)

/-- The letters for rows that are often asked for. -/
def shortRows : List (Char × Row) :=
  [('a', ⟨.named, 1, false⟩), ('b', ⟨.octal, 1, false⟩), ('c', ⟨.character, 1, false⟩),
    ('d', ⟨.unsigned, 2, false⟩), ('D', ⟨.unsigned, 4, false⟩), ('h', ⟨.hexadecimal, 2, false⟩),
    ('H', ⟨.hexadecimal, 4, false⟩), ('i', ⟨.signed, 4, false⟩), ('I', ⟨.signed, 8, false⟩),
    ('l', ⟨.signed, 8, false⟩), ('L', ⟨.signed, 8, false⟩), ('o', ⟨.octal, 2, false⟩),
    ('O', ⟨.octal, 4, false⟩), ('s', ⟨.signed, 2, false⟩), ('x', ⟨.hexadecimal, 2, false⟩),
    ('X', ⟨.hexadecimal, 4, false⟩)]

def rowsAsked (given : Invocation) : Except RowFault (List Row) := do
  let asked ← given.options.filterMapM fun (letter, text) =>
    if letter == 't' then (rowsOf text (text.length + 1) text.toList).map some
    else .ok ((shortRows.lookup letter).map fun row => [row])
  let rows := asked.flatten
  return if rows.isEmpty then [⟨.octal, 2, false⟩] else rows

def table : OptionTable :=
  { options "abcdDhHiIlLoOsxXvw\x01" "AjNt" [("address-radix", 'A'), ("skip-bytes", 'j'),
      ("read-bytes", 'N'), ("format", 't'), ("output-duplicates", 'v'), ("width", 'w'),
      ("endian", '\x01')] with
    optional := ['w', '\x01'] }

end Dump

open Dump in
/-- Shows octets as numbers or characters. -/
def od : Work Unit :=
  withOptions table 1 fun given => do
    let radixes : List (String × Option (Nat × Nat)) :=
      [("o", some (8, 7)), ("d", some (10, 7)), ("x", some (16, 6)), ("n", none)]
    let radix := (given.value? 'A').getD "o"
    let numbers := [('j', "0"), ('N', "0"), ('w', "32")].map fun (letter, standard) =>
      let text := (given.value? letter).getD standard
      (letter, if text.isEmpty then standard else text)
    match radixes.lookup radix, numbers.find? (fun (_, text) => (Sizes.readAny? text).isNone),
      rowsAsked given with
    | none, _, _ =>
      complain (s!"invalid output address radix {quotedName radix}; " ++
        "it must be one character from [doxn]") 1
    | _, some (letter, text), _ =>
      complain s!"invalid -{letter} argument {quotedName text}" 1
    | _, _, .error (.unknown c text) =>
      let shown := String.singleton c
      complain s!"invalid character {quotedName shown} in type string {quotedName text}" 1
    | _, _, .error (.size n text) =>
      complain (s!"invalid type string {quotedName text};\n" ++
        s!"this system doesn't provide a {n}-byte integral type") 1
    | some radix, none, .ok rows =>
      let number (letter : Char) : Nat := ((numbers.lookup letter).bind Sizes.readAny?).getD 0
      let item := (rows.map Row.size).foldl max 1
      let asked := number 'w'
      let isFitting := asked % item = 0 && asked ≠ 0
      let width := if !given.has 'w' then 16 else if isFitting then asked else item
      if given.has 'w' && !isFitting then
        sayError s!"{(← get).call.name}: warning: invalid width {asked}; using {item} instead\n"
      let texts ← (orInput given.operands).mapM fun name => do
        match ← textOf name with
        | .ok text => return some text
        | .error cause =>
          complainOf (inputName "standard input" name) cause 1
          return if cause == .isDirectory then some "" else none
      unless texts.all Option.isNone do
        let octets := (String.join (texts.filterMap id)).toList
        let skipped := number 'j'
        if octets.length < skipped then complain "cannot skip past end of combined input" 1
        else
          let octets := octets.drop skipped
          let octets := if given.has 'N' then octets.take (number 'N') else octets
          say ((⟨radix, rows, width, !given.has 'v', given.value? '\x01' == some "big"⟩ :
            View).show_ skipped octets)

/-! ## Letters and digits

Bytes in letters and digits. A coding takes so many bits for each digit; groups of bytes make up groups
of digits, and the last group is filled up with equals signs.
-/

open Work

/-- A way to write bytes in digits. -/
structure TextCoding where
  digits : List Char
  /-- The bits that a digit stands for. -/
  bits : Nat
  /-- The number of bytes of a group. -/
  bytes : Nat
  /-- Whether the bytes in front of a fault in a group are read. -/
  readsParts : Bool

namespace TextCoding

def base64 : TextCoding :=
  ⟨"ABCDEFGHIJKLMNOPQRSTUVWXYZabcdefghijklmnopqrstuvwxyz0123456789+/".toList, 6, 3, true⟩

def base32 : TextCoding := ⟨"ABCDEFGHIJKLMNOPQRSTUVWXYZ234567".toList, 5, 5, false⟩

/-- The number of digits of a group. -/
def groupLength (coding : TextCoding) : Nat := 8 * coding.bytes / coding.bits

/-- The number of digits that bytes take. -/
def digitCount (coding : TextCoding) (bytes : Nat) : Nat :=
  (8 * bytes + coding.bits - 1) / coding.bits

/-- The group of digits for some bytes, of which there are at most as many as a group has. -/
def groupOf (coding : TextCoding) (octets : List Char) : List Char :=
  let value := octets.foldl (fun n c => 256 * n + c.toNat) 0
  let value := value * Nat.pow 256 (coding.bytes - octets.length)
  let length := coding.groupLength
  let digits := (List.range (coding.digitCount octets.length)).map fun place =>
    coding.digits.getD (value / Nat.pow 2 (coding.bits * (length - 1 - place)) %
      Nat.pow 2 coding.bits) '='
  digits ++ List.replicate (length - digits.length) '='

/-- The digits for octets; `fuel` is at least their number. -/
def encodeFrom (coding : TextCoding) : Nat → List Char → List Char
  | fuel + 1, c :: rest =>
    coding.groupOf ((c :: rest).take coding.bytes) ++
      coding.encodeFrom fuel ((c :: rest).drop coding.bytes)
  | _, _ => []

/-- The octets that the digits at the start of a group stand for, and whether the group is whole. -/
def octetsOfGroup (coding : TextCoding) (group : List Char) : List Char × Bool :=
  let values := (group.map fun c => coding.digits.findIdx? (· == c)).takeWhile Option.isSome
  let length := coding.groupLength
  let value := values.foldl (fun n digit => Nat.pow 2 coding.bits * n + digit.getD 0) 0
  let value := value * Nat.pow 2 (coding.bits * (length - values.length))
  let count := coding.bits * values.length / 8
  let octets := (List.range count).map fun place =>
    Char.ofNat (value / Nat.pow 256 (coding.bytes - 1 - place) % 256)
  let isWhole := group.length = length && count ≠ 0 && coding.digitCount count = values.length &&
    (group.drop values.length).all (· == '=')
  (if isWhole || coding.readsParts then octets else [], isWhole)

/-- The octets that digits stand for, up to the first group that is not whole, and whether there is
none; `fuel` is at least their number. -/
def decodeFrom (coding : TextCoding) : Nat → List Char → List Char × Bool
  | fuel + 1, c :: rest =>
    let (octets, isWhole) := coding.octetsOfGroup ((c :: rest).take coding.groupLength)
    if !isWhole then (octets, false)
    else
      let (more, isWhole) := coding.decodeFrom fuel ((c :: rest).drop coding.groupLength)
      (octets ++ more, isWhole)
  | _, _ => ([], true)

end TextCoding

/-- Characters in lines of a width; `fuel` is at least their number. -/
def wrappedFrom (width : Nat) : Nat → List Char → List Char
  | fuel + 1, c :: rest =>
    (c :: rest).take width ++ '\n' :: wrappedFrom width fuel ((c :: rest).drop width)
  | _, _ => []

/-- Writes a file in digits, or reads one that is. -/
def codingProgram (coding : TextCoding) : Work Unit :=
  withOptions (options "di" "w" [("decode", 'd'), ("wrap", 'w'), ("ignore-garbage", 'i')]) 1
    fun given => do
      let widths := (given.options.filter (·.1 == 'w')).map Prod.snd
      match widths.find? fun text => text.toNat?.isNone, given.operands with
      | some text, _ => complain s!"invalid wrap size: {quotedName text}" 1
      | none, _ :: extra :: _ => misuse s!"extra operand {quotedName extra}" 1
      | none, names =>
        let width := (widths.getLast?.bind String.toNat?).getD 76
        let name := names.head?.getD "-"
        match ← textOf name with
        | .error .isDirectory => complain s!"read error: {OsCause.isDirectory.wording}" 1
        | .error cause => complainOf name cause 1
        | .ok text =>
          let octets := text.toList
          if !given.has 'd' then
            let digits := coding.encodeFrom octets.length octets
            let isWrapped := width ≠ 0 && width < Nat.pow 2 63
            say (String.ofList (if isWrapped then wrappedFrom width digits.length digits else digits))
          else
            let isKept (c : Char) : Bool :=
              c != '\n' && (!given.has 'i' || c == '=' || coding.digits.contains c)
            let kept := octets.filter isKept
            let (found, isWhole) := coding.decodeFrom kept.length kept
            say (String.ofList found)
            if !isWhole then complain "invalid input" 1

end JavaStubs.Host

import JavaStubs.Text.Hexadecimal

/-!
Unicode escapes of Java source text. `encode` writes a text with ASCII characters only: every
other character becomes the escapes of its UTF-16 code units, a backslash, the letter `u` and four
small hexadecimal digits each, so a character beyond the basic plane takes two escapes.
-/
namespace JavaStubs.UnicodeEscape

open Hexadecimal (digit)

/-- The UTF-16 code units of a character: one, or a surrogate pair. -/
def units (c : Char) : List Nat :=
  if c.toNat < 0x10000 then [c.toNat]
  else [0xD800 + (c.toNat - 0x10000) / 0x400, 0xDC00 + (c.toNat - 0x10000) % 0x400]

/-- A number below 65536 in four hexadecimal digits. -/
def hex4 (n : Nat) : List Char :=
  [digit (n / 4096 % 16), digit (n / 256 % 16), digit (n / 16 % 16), digit (n % 16)]

def escapeUnit (unit : Nat) : List Char := '\\' :: 'u' :: hex4 unit

/-- An ASCII character as it is, any other one as the escapes of its code units. -/
def encodeChar (c : Char) : List Char :=
  if c.toNat < 128 then [c] else (units c).flatMap escapeUnit

/-- A text in ASCII, its other characters escaped. -/
def encode (text : List Char) : List Char := text.flatMap encodeChar

/-- A text in ASCII, its other characters escaped. -/
def encoded (text : String) : String := String.ofList (encode text.toList)

theorem encode_append (s t : List Char) : encode (s ++ t) = encode s ++ encode t := by
  simp [encode]

theorem encode_cons (c : Char) (s : List Char) : encode (c :: s) = encodeChar c ++ encode s := by
  simp [encode]

/-- A text of ASCII characters is written as it is. -/
theorem encode_eq_self {text : List Char} (h : ∀ c ∈ text, c.toNat < 128) :
    encode text = text := by
  induction text with
  | nil => rfl
  | cons c rest ih =>
    rw [encode_cons, ih fun d hd => h d (List.mem_cons_of_mem _ hd)]
    simp [encodeChar, h c]

end JavaStubs.UnicodeEscape

namespace JavaStubs

/-! ## Code points

Texts of code points. A `String` is a text of characters, the Unicode scalar values, and texts are strings in
this library. A text in memory may hold surrogates as well, code points that no character has; an escape in a
document can spell one, and a string has the replacement character for it. They are escaped like characters, as
the code units that they are, and here lies the only ambiguity of escapes: a high surrogate with a low one
behind it has those of one character beyond the basic plane.
-/

/-- A code point is a character or, with a place among the others, a surrogate. -/
inductive CodePoint where
  | char (c : Char)
  | surrogate (place : Fin 0x800)
  deriving DecidableEq, Repr

namespace CodePoint

def ofString (text : String) : List CodePoint := text.toList.map char

/-- The character that stands for a code point in a string: a surrogate is no character and becomes the
replacement character. -/
def toChar : CodePoint → Char
  | char c => c
  | surrogate _ => '\uFFFD'

def string (text : List CodePoint) : String := String.ofList (text.map toChar)

/-- The code point of a code unit that is no half of a pair. -/
def ofUnit (unit : Nat) : CodePoint :=
  if h : 0xD800 ≤ unit ∧ unit < 0xE000 then surrogate ⟨unit - 0xD800, by omega⟩ else char (Char.ofNat unit)

/-- The UTF-16 code units of a code point. -/
def units : CodePoint → List Nat
  | char c => UnicodeEscape.units c
  | surrogate place => [0xD800 + place]

/-- The UTF-16 code units of a text. -/
def utf16 (text : List CodePoint) : List Nat := text.flatMap units

/-- An ASCII character as it is, any other code point as the escapes of its code units. -/
def encodePoint : CodePoint → List Char
  | char c => UnicodeEscape.encodeChar c
  | surrogate place => UnicodeEscape.escapeUnit (0xD800 + place)

/-- A text in ASCII, its other code points escaped. -/
def encode (text : List CodePoint) : List Char := text.flatMap encodePoint

/-- A surrogate that is the first half of a pair. -/
def IsHigh : CodePoint → Prop
  | char _ => False
  | surrogate place => place < 0x400

/-- A surrogate that is the second half of a pair. -/
def IsLow : CodePoint → Prop
  | char _ => False
  | surrogate place => 0x400 ≤ place

instance : DecidablePred IsHigh
  | char _ => inferInstanceAs (Decidable False)
  | surrogate place => inferInstanceAs (Decidable (place < 0x400))

instance : DecidablePred IsLow
  | char _ => inferInstanceAs (Decidable False)
  | surrogate place => inferInstanceAs (Decidable (0x400 ≤ place))

/-- No high surrogate stands directly in front of a low one. -/
def IsUnpaired : List CodePoint → Prop
  | a :: b :: rest => ¬ (a.IsHigh ∧ b.IsLow) ∧ IsUnpaired (b :: rest)
  | _ => True

instance decidableIsUnpaired : DecidablePred IsUnpaired
  | [] => .isTrue trivial
  | [_] => .isTrue trivial
  | a :: b :: rest =>
    have := decidableIsUnpaired (b :: rest)
    inferInstanceAs (Decidable (¬ (a.IsHigh ∧ b.IsLow) ∧ IsUnpaired (b :: rest)))

theorem IsUnpaired.tail {p : CodePoint} {text : List CodePoint} (unpaired : IsUnpaired (p :: text)) :
    IsUnpaired text := by
  cases text with
  | nil => trivial
  | cons q text => exact unpaired.2

theorem isUnpaired_ofString (text : String) : IsUnpaired (ofString text) := by
  unfold ofString
  induction text.toList with
  | nil => trivial
  | cons c rest ih =>
    cases rest with
    | nil => trivial
    | cons d rest => exact ⟨fun halves => halves.1, ih⟩

theorem string_ofString (text : String) : string (ofString text) = text := by
  simp [string, ofString, Function.comp_def, toChar]

/-- A string is encoded as the text of its characters. -/
theorem encode_ofString (text : String) : encode (ofString text) = UnicodeEscape.encode text.toList := by
  simp [encode, ofString, UnicodeEscape.encode, List.flatMap_map, encodePoint]

end CodePoint
end JavaStubs

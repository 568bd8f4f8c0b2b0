/-!
Character classes that the program's readers share, and cutting texts: fields between separators, words
between blanks, trimming, joining. All of it works on lists of characters; `trimmed`, `wordsOf`, `fieldsOf` and
`joined` are the forms on strings. `joined` puts back what `fields` cut (`intercalate_fields`). Blank characters
and decimal digits of any script are properties of the Unicode standard, given by their code point ranges.
-/
namespace JavaStubs.Text

/-! ## Characters -/

/-- Whether a character lies in one of the inclusive code point ranges. -/
def inRanges (ranges : List (Nat × Nat)) (c : Char) : Bool :=
  ranges.any fun (low, high) => low ≤ c.toNat && c.toNat ≤ high

/-- The blank characters of Unicode: white space, the separators of every kind and the four
information separators of ASCII. -/
def blankRanges : List (Nat × Nat) :=
  [(9, 13), (28, 32), (133, 133), (160, 160), (5760, 5760), (8192, 8202), (8232, 8233), (8239, 8239),
   (8287, 8287), (12288, 12288)]

/-- The decimal digits of every script. -/
def digitRanges : List (Nat × Nat) :=
  [(48, 57), (1632, 1641), (1776, 1785), (1984, 1993), (2406, 2415), (2534, 2543), (2662, 2671),
   (2790, 2799), (2918, 2927), (3046, 3055), (3174, 3183), (3302, 3311), (3430, 3439), (3558, 3567),
   (3664, 3673), (3792, 3801), (3872, 3881), (4160, 4169), (4240, 4249), (6112, 6121), (6160, 6169),
   (6470, 6479), (6608, 6617), (6784, 6793), (6800, 6809), (6992, 7001), (7088, 7097), (7232, 7241),
   (7248, 7257), (42528, 42537), (43216, 43225), (43264, 43273), (43472, 43481), (43504, 43513),
   (43600, 43609), (44016, 44025), (65296, 65305), (66720, 66729), (68912, 68921), (69734, 69743),
   (69872, 69881), (69942, 69951), (70096, 70105), (70384, 70393), (70736, 70745), (70864, 70873),
   (71248, 71257), (71360, 71369), (71472, 71481), (71904, 71913), (72016, 72025), (72784, 72793),
   (73040, 73049), (73120, 73129), (92768, 92777), (92864, 92873), (93008, 93017), (120782, 120831),
   (123200, 123209), (123632, 123641), (125264, 125273), (130032, 130041)]

/-- A blank character. -/
def isBlank (c : Char) : Bool := inRanges blankRanges c

/-- A decimal digit of any script. -/
def isDecimalDigit (c : Char) : Bool := inRanges digitRanges c

def isLowerAscii (c : Char) : Bool := 'a' ≤ c && c ≤ 'z'

def isUpperAscii (c : Char) : Bool := 'A' ≤ c && c ≤ 'Z'

def isDigitAscii (c : Char) : Bool := '0' ≤ c && c ≤ '9'

/-- What holds of all characters of a text is decided by going through them. -/
instance (priority := high) decidableForallMem (text : List Char) (p : Char → Prop) [DecidablePred p] :
    Decidable (∀ c ∈ text, p c) :=
  List.decidableBAll p text

/-- A character that core takes for white space is blank. -/
theorem isBlank_of_isWhitespace {c : Char} (h : c.isWhitespace) : isBlank c := by
  simp only [Char.isWhitespace, Bool.or_eq_true, decide_eq_true_eq] at h
  rcases h with ((rfl | rfl) | rfl) | rfl <;> decide

/-! ## Cutting -/

/-- The pieces of a text between the characters that `sep` holds of; always at least one. -/
def fields (sep : Char → Bool) : List Char → List (List Char)
  | [] => [[]]
  | c :: rest =>
    if sep c then [] :: fields sep rest
    else match fields sep rest with
      | [] => [[c]]
      | field :: more => (c :: field) :: more

/-- The words of a text: the maximal runs without a blank. -/
def words (text : List Char) : List (List Char) :=
  (fields isBlank text).filter (!·.isEmpty)

/-- A list without its last elements that `p` holds of. -/
def dropTrailing (p : Char → Bool) (text : List Char) : List Char :=
  (text.reverse.dropWhile p).reverse

/-- A text without the blanks at its two ends. -/
def trim (text : List Char) : List Char :=
  dropTrailing isBlank (text.dropWhile isBlank)

/-- A text without the blanks at its two ends. -/
def trimmed (text : String) : String := String.ofList (trim text.toList)

def wordsOf (text : String) : List String := (words text.toList).map String.ofList

/-- The pieces of a text between occurrences of one character. -/
def fieldsOf (sep : Char) (text : String) : List String :=
  (fields (· == sep) text.toList).map String.ofList

/-- The texts one after another, with `sep` between neighbours. -/
def joined (sep : String) : List String → String
  | [] => ""
  | [text] => text
  | text :: next :: rest => text ++ sep ++ joined sep (next :: rest)

/-- The part of a text behind `start`, if it begins with that. -/
def pastStart? (start text : List Char) : Option (List Char) :=
  if start.isPrefixOf text then some (text.drop start.length) else none

/-- The part of a list before the first element that `p` holds of, and the part after it. -/
def cutAt (p : Char → Bool) (text : List Char) : List Char × List Char :=
  (text.takeWhile (!p ·), (text.dropWhile (!p ·)).drop 1)

/-- The part of a text after the last occurrence of `sep`, or all of it when there is none. -/
def afterLast (sep : Char) (text : List Char) : List Char :=
  (text.reverse.takeWhile (· != sep)).reverse

/-- The part of a text before the last occurrence of `sep`, or nothing when there is none. -/
def beforeLast (sep : Char) (text : List Char) : List Char :=
  ((text.reverse.dropWhile (· != sep)).drop 1).reverse

/-- The text with every character that `p` holds of written as `new`. -/
def replaced (p : Char → Bool) (new : Char) (text : String) : String :=
  String.ofList (text.toList.map fun c => if p c then new else c)

/-- The text with its ASCII capitals written small. -/
def lowerAscii (text : String) : String := String.ofList (text.toList.map Char.toLower)

/-- The text written `n` times. -/
def repeated (text : String) : Nat → String
  | 0 => ""
  | n + 1 => text ++ repeated text n

/-- Whether a text holds another one somewhere. -/
def contains (part : List Char) : List Char → Bool
  | [] => part.isEmpty
  | c :: rest => part.isPrefixOf (c :: rest) || contains part rest

theorem toList_joined (sep : String) (texts : List String) :
    (joined sep texts).toList = sep.toList.intercalate (texts.map String.toList) := by
  induction texts with
  | nil => rfl
  | cons text others ih =>
    cases others with
    | nil => rw [joined, List.map_singleton, List.intercalate_singleton]
    | cons next rest =>
      rw [joined, String.toList_append, String.toList_append, ih, List.map_cons, List.map_cons, List.map_cons,
        List.intercalate_cons_cons]

theorem fields_ne_nil (sep : Char → Bool) (text : List Char) : fields sep text ≠ [] := by
  cases text with
  | nil => simp [fields]
  | cons c rest =>
    unfold fields
    split
    · simp
    · split <;> simp

/-- Putting the separator back between the fields restores the text. -/
theorem intercalate_fields (sep : Char) (text : List Char) :
    [sep].intercalate (fields (· == sep) text) = text := by
  induction text with
  | nil => rfl
  | cons c rest ih =>
    have some := fields_ne_nil (· == sep) rest
    unfold fields
    by_cases h : c = sep
    · subst h
      cases hf : fields (· == c) rest with
      | nil => exact absurd hf some
      | cons f fs => rw [hf] at ih; simp [List.intercalate, ← ih]
    · cases hf : fields (· == sep) rest with
      | nil => exact absurd hf some
      | cons f fs =>
        rw [hf] at ih
        cases fs <;> simp_all [List.intercalate]

section Fields

variable {sep : Char → Bool} {c : Char} {text tail last first : List Char} {front rest parts : List (List Char)}

theorem exists_last_field (sep : Char → Bool) (text : List Char) :
    ∃ front last, fields sep text = front ++ [last] :=
  ⟨_, _, (List.dropLast_concat_getLast (fields_ne_nil sep text)).symm⟩

theorem fields_of_undivided (undivided : ∀ c ∈ text, sep c = false) : fields sep text = [text] := by
  induction text with
  | nil => rfl
  | cons c text ih =>
    have other : ¬ sep c = true := by simp [undivided c List.mem_cons_self]
    rw [fields, if_neg other, ih fun d member => undivided d (List.mem_cons_of_mem c member)]

/-- Where a text follows another one, the last field of the one and the first of the other become one. -/
theorem fields_append (before : fields sep text = front ++ [last]) (after : fields sep tail = first :: rest) :
    fields sep (text ++ tail) = front ++ (last ++ first) :: rest := by
  induction text generalizing front last with
  | nil =>
    cases front with
    | nil =>
      obtain ⟨rfl, -⟩ := List.cons.inj before
      exact after
    | cons field front => cases front <;> cases before
  | cons c text ih =>
    obtain ⟨field, more, all⟩ := List.exists_cons_of_ne_nil (fields_ne_nil sep text)
    rw [List.cons_append]
    rw [fields, all] at before
    by_cases divides : sep c = true
    · rw [if_pos divides] at before
      cases front with
      | nil => cases before
      | cons other front =>
        obtain ⟨rfl, others⟩ := List.cons.inj before
        rw [fields, if_pos divides, ih (all.trans others), List.cons_append]
    · rw [if_neg divides] at before
      cases front with
      | nil =>
        obtain ⟨rfl, rfl⟩ := List.cons.inj before
        rw [fields, if_neg divides, ih (show _ = [] ++ [field] from all)]
        rfl
      | cons other front =>
        obtain ⟨rfl, rfl⟩ := List.cons.inj before
        rw [fields, if_neg divides, ih (show _ = (field :: front) ++ [last] from all)]
        rfl

/-- The fields in front of a separator, and those behind it. -/
theorem fields_append_cons (divides : sep c = true) (text tail : List Char) :
    fields sep (text ++ c :: tail) = fields sep text ++ fields sep tail := by
  obtain ⟨front, last, before⟩ := exists_last_field sep text
  have after : fields sep (c :: tail) = [] :: fields sep tail := by rw [fields, if_pos divides]
  rw [fields_append before after, before, List.append_nil, List.append_assoc, List.singleton_append]

/-- Parts put together have the fields of each. -/
theorem fields_intercalate (divides : sep c = true) (some_parts : parts ≠ []) :
    fields sep ([c].intercalate parts) = parts.flatMap (fields sep) := by
  induction parts with
  | nil => exact absurd rfl some_parts
  | cons part others ih =>
    cases others with
    | nil => rw [List.intercalate_singleton, List.flatMap_cons, List.flatMap_nil, List.append_nil]
    | cons next others =>
      rw [List.intercalate_cons_cons, List.append_assoc, List.singleton_append, fields_append_cons divides,
        ih (List.cons_ne_nil next others)]
      rfl

end Fields

/-! ## Lines

Lines of a text. Two conventions meet in the program: a report of a tool is cut at every line
boundary of Unicode (`lines`), while a file is read with its line ends made uniform
(`uniformNewlines`) and cut after each line feed (`physicalLines`).
-/

/-- A character that ends a line: the feeds, the carriage return, three information separators,
the next-line control and the two Unicode separators. -/
def isLineBoundary (c : Char) : Bool :=
  inRanges [(10, 13), (28, 30), (133, 133), (8232, 8233)] c

/-- The lines of a text, without their boundaries. A carriage return followed by a line feed is
one boundary, and a boundary at the very end opens no further line. -/
def lines : List Char → List (List Char)
  | [] => []
  | '\r' :: '\n' :: rest => [] :: lines rest
  | c :: rest =>
    if isLineBoundary c then [] :: lines rest
    else match lines rest with
      | [] => [[c]]
      | line :: more => (c :: line) :: more

/-- A text in which each carriage return, alone or before a line feed, is a line feed. -/
def uniformNewlines : List Char → List Char
  | [] => []
  | '\r' :: '\n' :: rest => '\n' :: uniformNewlines rest
  | '\r' :: rest => '\n' :: uniformNewlines rest
  | c :: rest => c :: uniformNewlines rest

/-- A text cut after each of its line feeds: every piece but the last ends in one, and the last
piece is not empty. -/
def physicalLines : List Char → List (List Char)
  | [] => []
  | c :: rest =>
    if c == '\n' then [c] :: physicalLines rest
    else match physicalLines rest with
      | [] => [[c]]
      | line :: more => (c :: line) :: more

/-- The pieces of a text restore it. -/
theorem flatten_physicalLines (text : List Char) : (physicalLines text).flatten = text := by
  induction text with
  | nil => rfl
  | cons c rest ih =>
    unfold physicalLines
    split
    · simp [ih]
    · cases h : physicalLines rest with
      | nil => rw [h] at ih; simp_all
      | cons l ls => rw [h] at ih; simp_all

end JavaStubs.Text

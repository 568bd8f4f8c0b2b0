import Mathlib.Data.List.Basic
import JavaStubs.Java.Surface
import JavaStubs.Proofs.UnicodeEscape.RoundTrip

/-!
What a compilation unit tells about the interface that it implements. The unit is one text without
any structure, but each of its names ends at the first separator behind it, each method at the line
that closes it, and the list of the methods at a brace where no method begins. So the names of the
interface and its abstract methods can be read off the unit, as long as no name has a separator in
it. A text without backslashes can be read back from its escapes, but only as code units: names that are not
the same have one unit if and only if surrogates in one of them stand as the pair of a character in the other.
-/
namespace JavaStubs.Surface

variable {α β : Type} {letter : Char → α}

/-! ## Words -/

/-- The characters that end a name in a compilation unit, and the one that starts an escape. -/
def separators : List Char := [' ', ',', ';', ')', '\\']

/-- A text without separators. -/
def IsWord (letter : Char → α) (text : List α) : Prop := ∀ c ∈ separators, letter c ∉ text

instance [DecidableEq α] (text : List α) : Decidable (IsWord letter text) :=
  inferInstanceAs (Decidable (∀ c ∈ separators, letter c ∉ text))

/-- A word ends at the first separator behind it. -/
theorem IsWord.unique {a b : List α} (word : IsWord letter a) (other_word : IsWord letter b) {c d : Char}
    (ends : c ∈ separators) (other_ends : d ∈ separators) {s t : List α}
    (same : a ++ letter c :: s = b ++ letter d :: t) : a = b ∧ letter c = letter d ∧ s = t := by
  rcases List.append_eq_append_iff.mp same with ⟨more, rfl, behind⟩ | ⟨more, rfl, behind⟩
  · cases more with
    | nil => exact ⟨by simp, List.cons.inj behind⟩
    | cons e more =>
      obtain ⟨rfl, -⟩ := List.cons.inj behind
      exact absurd (by simp) (other_word c ends)
  · cases more with
    | nil =>
      obtain ⟨first, rest⟩ := List.cons.inj behind
      exact ⟨by simp, first.symm, rest.symm⟩
    | cons e more =>
      obtain ⟨rfl, -⟩ := List.cons.inj behind
      exact absurd (by simp) (word d other_ends)

theorem IsWord.append {a b : List α} (word : IsWord letter a) (other_word : IsWord letter b) :
    IsWord letter (a ++ b) := fun c ends member =>
  (List.mem_append.mp member).elim (word c ends) (other_word c ends)

theorem IsWord.no_backslash {text : List α} (word : IsWord letter text) : letter '\\' ∉ text :=
  word '\\' (by decide)

/-- A rest that ends the word in front of it. -/
def EndsWord (letter : Char → α) (rest : List α) : Prop := ∃ c ∈ separators, ∃ behind, rest = letter c :: behind

/-- The names of a method and of its parameters are words. -/
structure IsNamedMethod (letter : Char → α) (method : Signature α) : Prop where
  name : IsWord letter method.name
  returnType : IsWord letter method.returnType
  parameters : ∀ parameter ∈ method.parameters, IsWord letter parameter.1 ∧ IsWord letter parameter.2

instance [DecidableEq α] (method : Signature α) : Decidable (IsNamedMethod letter method) :=
  decidable_of_iff
    (IsWord letter method.name ∧ IsWord letter method.returnType ∧
      ∀ parameter ∈ method.parameters, IsWord letter parameter.1 ∧ IsWord letter parameter.2)
    ⟨fun words => ⟨words.1, words.2.1, words.2.2⟩,
      fun named => ⟨named.name, named.returnType, named.parameters⟩⟩

/-- The names of a type and of its abstract methods are words. -/
structure IsNamed (letter : Char → α) (surface : Surface α) : Prop where
  package : IsWord letter surface.package
  simpleName : IsWord letter surface.simpleName
  canonicalName : IsWord letter surface.canonicalName
  methods : ∀ method ∈ surface.abstractMethods, IsNamedMethod letter method

instance [DecidableEq α] (surface : Surface α) : Decidable (IsNamed letter surface) :=
  decidable_of_iff
    (IsWord letter surface.package ∧ IsWord letter surface.simpleName ∧ IsWord letter surface.canonicalName ∧
      ∀ method ∈ surface.abstractMethods, IsNamedMethod letter method)
    ⟨fun words => ⟨words.1, words.2.1, words.2.2.1, words.2.2.2⟩,
      fun named => ⟨named.package, named.simpleName, named.canonicalName, named.methods⟩⟩

/-! ## Texts that can be told from what follows -/

/-- In front of a rest that `ends` allows, the text of a good element is that of no other one. -/
def Readable {ε : Type} (write : ε → List α) (good : ε → Prop) (ends : List α → Prop) : Prop :=
  ∀ ⦃a b : ε⦄ ⦃s t : List α⦄, good a → good b → ends s → ends t → write a ++ s = write b ++ t → a = b ∧ s = t

section Lists
variable {ε : Type} {write : ε → List α} {good : ε → Prop} {ends : List α → Prop}
variable {sep : List α} {mark stop : α} {more : List α}

/-- The texts of elements, each behind a separator. -/
def rows (sep : List α) (write : ε → List α) (elements : List ε) : List α :=
  elements.flatMap fun a => sep ++ write a

theorem intercalate_cons (a : ε) (others : List ε) :
    sep.intercalate ((a :: others).map write) = write a ++ rows sep write others := by
  induction others generalizing a with
  | nil => simp [rows]
  | cons b others ih =>
    rw [List.map_cons, List.map_cons, List.intercalate_cons_cons, ← List.map_cons, ih b]
    simp [rows]

variable (each : Readable write good ends) (begins : sep = mark :: more)
variable (other : mark ≠ stop) (between : ∀ s, ends (mark :: s)) (last : ∀ s, ends (stop :: s))
include begins between last

theorem ends_rows (elements : List ε) (s : List α) : ends (rows sep write elements ++ stop :: s) := by
  cases elements with
  | nil => exact last s
  | cons a others =>
    rw [rows, List.flatMap_cons, begins]
    exact between _

include each other

theorem rows_unique {as bs : List ε} {s t : List α} (all : ∀ a ∈ as, good a)
    (others : ∀ b ∈ bs, good b)
    (same : rows sep write as ++ stop :: s = rows sep write bs ++ stop :: t) : as = bs ∧ s = t := by
  induction as generalizing bs with
  | nil =>
    cases bs with
    | nil => exact ⟨rfl, (List.cons.inj same).2⟩
    | cons b bs =>
      rw [rows, rows, List.flatMap_cons, begins] at same
      exact absurd (List.cons.inj same).1.symm other
  | cons a as ih =>
    cases bs with
    | nil =>
      rw [rows, rows, List.flatMap_cons, begins] at same
      exact absurd (List.cons.inj same).1 other
    | cons b bs =>
      have texts : write a ++ (rows sep write as ++ stop :: s) = write b ++ (rows sep write bs ++ stop :: t) := by
        simpa [rows] using same
      obtain ⟨rfl, rest⟩ := each (all a List.mem_cons_self) (others b List.mem_cons_self)
        (ends_rows begins between last as s) (ends_rows begins between last bs t) texts
      obtain ⟨rfl, behind⟩ := ih (fun c member => all c (List.mem_cons_of_mem a member))
        (fun c member => others c (List.mem_cons_of_mem a member)) rest
      exact ⟨rfl, behind⟩

/-- A list of readable texts is readable in front of a letter that begins neither a separator
nor a text. -/
theorem intercalate_unique (inner : ∀ a s t, good a → write a ++ s ≠ stop :: t)
    {as bs : List ε} {s t : List α} (all : ∀ a ∈ as, good a) (others : ∀ b ∈ bs, good b)
    (same : sep.intercalate (as.map write) ++ stop :: s = sep.intercalate (bs.map write) ++ stop :: t) :
    as = bs ∧ s = t := by
  cases as with
  | nil =>
    cases bs with
    | nil => exact ⟨rfl, (List.cons.inj same).2⟩
    | cons b bs =>
      rw [intercalate_cons, List.append_assoc] at same
      exact absurd same.symm (inner b _ s (others b List.mem_cons_self))
  | cons a as =>
    cases bs with
    | nil =>
      rw [intercalate_cons, List.append_assoc] at same
      exact absurd same (inner a _ t (all a List.mem_cons_self))
    | cons b bs =>
      refine rows_unique each begins other between last all others ?_
      rw [intercalate_cons, intercalate_cons] at same
      simpa [rows] using same

end Lists

/-! ## Methods -/

theorem parameter_readable :
    Readable (fun parameter : List α × List α => parameter.1 ++ written letter " " ++ parameter.2)
      (fun parameter => IsWord letter parameter.1 ∧ IsWord letter parameter.2) (EndsWord letter) := by
  rintro ⟨a, x⟩ ⟨b, y⟩ _ _ ⟨type, name⟩ ⟨other_type, other_name⟩ ⟨c, ends, s, rfl⟩ ⟨d, other_ends, t, rfl⟩ same
  have blank : written letter " " = [letter ' '] := rfl
  simp only [blank, List.append_assoc, List.cons_append, List.nil_append] at same type other_type name other_name
  obtain ⟨rfl, -, rest⟩ := type.unique other_type (by decide) (by decide) same
  obtain ⟨rfl, first, rfl⟩ := name.unique other_name ends other_ends rest
  exact ⟨rfl, by rw [first]⟩

section Unit
variable (letters : Function.Injective letter)
include letters

theorem parameterList_unique {method other : Signature α} {s t : List α}
    (named : IsNamedMethod letter method) (other_named : IsNamedMethod letter other)
    (same : parameterList letter method ++ letter ')' :: s = parameterList letter other ++ letter ')' :: t) :
    method.parameters = other.parameters ∧ s = t := by
  have comma : written letter ", " = letter ',' :: [letter ' '] := rfl
  have apart : letter ',' ≠ letter ')' := letters.ne (by decide)
  refine intercalate_unique parameter_readable comma apart (fun s => ⟨',', by decide, s, rfl⟩)
    (fun s => ⟨')', by decide, s, rfl⟩) ?_ named.parameters other_named.parameters same
  rintro ⟨type, name⟩ s t ⟨word, -⟩ begins
  cases type with
  | nil =>
    have first : letter ' ' = letter ')' := (List.cons.inj begins).1
    exact absurd (letters first) (by decide)
  | cons p type =>
    obtain ⟨rfl, -⟩ := List.cons.inj begins
    exact word ')' (by decide) List.mem_cons_self

omit letters in
theorem methodText_eq [DecidableEq α] (indent : List α) (method : Signature α) : methodText letter indent method =
    indent ++ (written letter "public " ++ (method.returnType ++ letter ' ' :: (method.name ++
      letter ' ' :: letter '(' :: (parameterList letter method ++
        letter ')' :: bodyText letter indent method.returnType)))) := by
  simp [methodText, written]

theorem methodText_readable [DecidableEq α] (indent : List α) : Readable (methodText letter indent)
    (fun method => IsNamedMethod letter method ∧ method.isAbstract) fun _ => True := by
  rintro ⟨name, returned, parameters, mark⟩ ⟨other_name, other_returned, other_parameters, other_mark⟩ s t
    ⟨named, abstract⟩ ⟨other_named, other_abstract⟩ - - same
  rw [methodText_eq, methodText_eq] at same
  simp only [List.append_assoc, List.cons_append, List.append_cancel_left_eq] at same
  obtain ⟨rfl, -, same⟩ := named.returnType.unique other_named.returnType (by decide) (by decide) same
  obtain ⟨rfl, -, same⟩ := named.name.unique other_named.name (by decide) (by decide) same
  obtain ⟨rfl, rest⟩ := parameterList_unique letters named other_named (List.cons.inj same).2
  obtain rfl : mark = other_mark := Eq.trans abstract other_abstract.symm
  exact ⟨rfl, List.append_cancel_left rest⟩

theorem methodText_begins [DecidableEq α] {indent : List α} (plain : letter '\x7d' ∉ indent) (method : Signature α)
    (s t : List α) : methodText letter indent method ++ s ≠ letter '\x7d' :: t := by
  intro same
  rw [methodText_eq] at same
  cases indent with
  | nil =>
    have first : letter 'p' = letter '\x7d' := (List.cons.inj same).1
    exact absurd (letters first) (by decide)
  | cons p indent =>
    obtain ⟨rfl, -⟩ := List.cons.inj same
    exact plain List.mem_cons_self

/-! ## The unit -/

/-- Without a package clause the second letter of a unit differs from that with one. -/
theorem packageClause_unique {package other s t : List α} (word : IsWord letter package)
    (other_word : IsWord letter other)
    (same : (if package = [] then [] else written letter "package " ++ package ++ written letter ";\n\n") ++
        (written letter "public class " ++ s) =
      (if other = [] then [] else written letter "package " ++ other ++ written letter ";\n\n") ++
        (written letter "public class " ++ t)) : package = other ∧ s = t := by
  have apart : letter 'u' ≠ letter 'a' := letters.ne (by decide)
  have semicolon : written letter ";\n\n" = letter ';' :: written letter "\n\n" := rfl
  split at same <;> split at same
  · next unnamed other_unnamed => exact ⟨unnamed.trans other_unnamed.symm, List.append_cancel_left same⟩
  · exact absurd (List.cons.inj (List.cons.inj same).2).1 apart
  · exact absurd (List.cons.inj (List.cons.inj same).2).1.symm apart
  · simp only [semicolon, List.append_assoc, List.cons_append, List.append_cancel_left_eq] at same
    obtain ⟨names, -, rest⟩ := word.unique other_word (by decide) (by decide) same
    exact ⟨names, List.append_cancel_left (List.append_cancel_left rest)⟩

theorem header_unique {suffix : List α} (word : IsWord letter suffix) {surface other : Surface α}
    {s t : List α} (named : IsNamed letter surface) (other_named : IsNamed letter other)
    (same : header letter suffix surface ++ s = header letter suffix other ++ t) :
    surface.package = other.package ∧ surface.simpleName = other.simpleName ∧
      surface.canonicalName = other.canonicalName ∧ s = t := by
  have implemented : written letter " implements " = letter ' ' :: written letter "implements " := rfl
  have brace : written letter " \x7b\n" = letter ' ' :: written letter "\x7b\n" := rfl
  simp only [header, implemented, brace, List.append_assoc, List.cons_append] at same
  obtain ⟨packages, same⟩ := packageClause_unique letters named.package other_named.package same
  rw [← List.append_assoc surface.simpleName, ← List.append_assoc other.simpleName] at same
  obtain ⟨classes, -, same⟩ := (named.simpleName.append word).unique (other_named.simpleName.append word)
    (by decide) (by decide) same
  obtain ⟨names, -, rest⟩ := named.canonicalName.unique other_named.canonicalName
    (by decide) (by decide) (List.append_cancel_left same)
  exact ⟨packages, List.append_cancel_right classes, names, List.append_cancel_left rest⟩

/-- The names of a type and of its abstract methods can be read off its unit. -/
theorem unit_unique [DecidableEq α] {layout : Layout α} (plain : letter '\x7d' ∉ layout.indent)
    (word : IsWord letter layout.suffix) {surface other : Surface α} (named : IsNamed letter surface)
    (other_named : IsNamed letter other) (same : unit letter layout surface = unit letter layout other) :
    surface.package = other.package ∧ surface.simpleName = other.simpleName ∧
      surface.canonicalName = other.canonicalName ∧ surface.abstractMethods = other.abstractMethods := by
  have feed : written letter "\n" = letter '\n' :: [] := rfl
  have closing : written letter "\x7d\n" = letter '\x7d' :: [letter '\n'] := rfl
  have apart : letter '\n' ≠ letter '\x7d' := letters.ne (by decide)
  simp only [unit, List.append_assoc] at same
  obtain ⟨packages, names, canonical, rest⟩ := header_unique letters word named other_named same
  rw [closing] at rest
  refine ⟨packages, names, canonical, ?_⟩
  exact (intercalate_unique (methodText_readable letters layout.indent) feed apart (fun _ => trivial)
    (fun _ => trivial) (fun method s t _ => methodText_begins letters plain method s t)
    (fun method member => ⟨named.methods method member, (List.mem_filter.mp member).2⟩)
    (fun method member => ⟨other_named.methods method member, (List.mem_filter.mp member).2⟩) rest).1

end Unit

/-! ## Units without backslashes -/

section Backslashes
variable [DecidableEq α] (letters : Function.Injective letter)
include letters

omit [DecidableEq α] in
theorem not_mem_written {c : Char} {text : String} (plain : c ∉ text.toList) : letter c ∉ written letter text := by
  intro member
  obtain ⟨d, inside, same⟩ := List.mem_map.mp member
  exact plain (letters same ▸ inside)

omit [DecidableEq α] letters in
theorem not_mem_intercalate {a : α} {sep : List α} {texts : List (List α)} (plain : a ∉ sep)
    (all : ∀ text ∈ texts, a ∉ text) : a ∉ sep.intercalate texts := by
  induction texts with
  | nil => exact List.not_mem_nil
  | cons text rest ih =>
    have others := ih fun next member => all next (List.mem_cons_of_mem text member)
    have first := all text List.mem_cons_self
    cases rest with
    | nil => simpa using first
    | cons next rest => simp [List.intercalate_cons_cons, plain, first, others]

theorem no_backslash_defaultValue (type : List α) : letter '\\' ∉ defaultValue letter type := by
  unfold defaultValue
  split
  · split
    · exact not_mem_written letters (by decide)
    · split
      · exact List.not_mem_nil
      · exact not_mem_written letters (by decide)
  · exact not_mem_written letters (by decide)

theorem no_backslash_methodText {indent : List α} (plain : letter '\\' ∉ indent) {method : Signature α}
    (named : IsNamedMethod letter method) : letter '\\' ∉ methodText letter indent method := by
  have fixed (text : String) (absent : '\\' ∉ text.toList) := not_mem_written letters absent
  have parameters : letter '\\' ∉ parameterList letter method := by
    refine not_mem_intercalate (fixed ", " (by decide)) fun text member => ?_
    obtain ⟨parameter, among, rfl⟩ := List.mem_map.mp member
    have words := named.parameters parameter among
    simp [words.1.no_backslash, words.2.no_backslash, fixed " " (by decide)]
  have body : letter '\\' ∉ bodyText letter indent method.returnType := by
    unfold bodyText
    split <;>
      simp [plain, no_backslash_defaultValue letters, fixed " \x7b\n" (by decide), fixed "\x7d\n" (by decide),
        fixed "return " (by decide), fixed ";\n" (by decide)]
  simp [methodText, plain, parameters, body, named.name.no_backslash, named.returnType.no_backslash,
    fixed "public " (by decide), fixed " " (by decide), fixed " (" (by decide), fixed ")" (by decide)]

theorem no_backslash_unit {layout : Layout α} (plain : letter '\\' ∉ layout.indent)
    (word : IsWord letter layout.suffix) {surface : Surface α} (named : IsNamed letter surface) :
    letter '\\' ∉ unit letter layout surface := by
  have fixed (text : String) (absent : '\\' ∉ text.toList) := not_mem_written letters absent
  have methods : letter '\\' ∉ (written letter "\n").intercalate
      (surface.abstractMethods.map (methodText letter layout.indent)) := by
    refine not_mem_intercalate (fixed "\n" (by decide)) fun text member => ?_
    obtain ⟨method, among, rfl⟩ := List.mem_map.mp member
    exact no_backslash_methodText letters plain (named.methods method among)
  have clause : letter '\\' ∉ (if surface.package = [] then []
      else written letter "package " ++ surface.package ++ written letter ";\n\n") := by
    split <;> simp [named.package.no_backslash, fixed "package " (by decide), fixed ";\n\n" (by decide)]
  simp only [unit, header, List.mem_append, clause, methods, word.no_backslash, named.simpleName.no_backslash,
    named.canonicalName.no_backslash, fixed "public class " (by decide), fixed " implements " (by decide),
    fixed " \x7b\n" (by decide), fixed "\x7d\n" (by decide), or_self, not_false_eq_true]

end Backslashes

/-! ## Other alphabets -/

/-- Letters are written as words over another alphabet, in which what is written in ASCII stays that, and only the
words for primitive types mean these. -/
structure IsTranslation (letter : Char → α) (letter' : Char → β) (f : α → List β) : Prop where
  single : ∀ c, c.toNat < 128 → f (letter c) = [letter' c]
  some : ∀ a, f a ≠ []
  word : ∀ name ∈ TypeName.primitives, ∀ text,
    text.flatMap f = written letter' name ↔ text = written letter name

namespace IsTranslation
variable [DecidableEq α] [DecidableEq β] {letter' : Char → β} {f : α → List β}
  (translation : IsTranslation letter letter' f)
include translation

omit [DecidableEq α] [DecidableEq β] in
theorem flatMap_written {text : String} (ascii : ∀ c ∈ text.toList, c.toNat < 128) :
    (written letter text).flatMap f = written letter' text := by
  rw [written, written, List.flatMap_map, List.map_eq_flatMap]
  exact List.flatMap_congr fun c member => translation.single c (ascii c member)

omit translation [DecidableEq α] [DecidableEq β] in
theorem flatMap_intercalate (sep : List α) (texts : List (List α)) :
    (sep.intercalate texts).flatMap f = (sep.flatMap f).intercalate (texts.map (·.flatMap f)) := by
  induction texts with
  | nil => rfl
  | cons text rest ih =>
    cases rest with
    | nil => simp
    | cons next rest => simp_all [List.intercalate_cons_cons]

omit [DecidableEq α] [DecidableEq β] in
theorem flatMap_eq_nil_iff (text : List α) : text.flatMap f = [] ↔ text = [] := by
  cases text with
  | nil => simp
  | cons a text => simp [translation.some]

theorem flatMap_defaultValue (type : List α) :
    (defaultValue letter type).flatMap f = defaultValue letter' (type.flatMap f) := by
  have primitive : type.flatMap f ∈ TypeName.primitives.map (written letter') ↔
      type ∈ TypeName.primitives.map (written letter) := by
    simp only [List.mem_map]
    exact exists_congr fun name => and_congr_right fun member => by
      rw [eq_comm, translation.word name member, eq_comm]
  have words (name : String) (member : name ∈ TypeName.primitives) := translation.word name member type
  unfold defaultValue
  simp only [primitive, words "boolean" (by decide), words "void" (by decide)]
  split_ifs <;> first | rfl | exact translation.flatMap_written (by decide)

theorem flatMap_bodyText (indent type : List α) :
    (bodyText letter indent type).flatMap f = bodyText letter' (indent.flatMap f) (type.flatMap f) := by
  have void := translation.word "void" (by decide) type
  unfold bodyText
  simp only [void]
  split_ifs <;> simp (disch := decide) [translation.flatMap_written, translation.flatMap_defaultValue]

theorem flatMap_methodText (indent : List α) (method : Signature α) :
    (methodText letter indent method).flatMap f =
      methodText letter' (indent.flatMap f) (method.map (·.flatMap f)) := by
  have parameters : (parameterList letter method).flatMap f =
      parameterList letter' (method.map (·.flatMap f)) := by
    rw [parameterList, parameterList, flatMap_intercalate, translation.flatMap_written (by decide)]
    simp (disch := decide) [Signature.map, translation.flatMap_written, Function.comp_def]
  simp (disch := decide) [methodText, parameters, translation.flatMap_written, translation.flatMap_bodyText,
    Signature.map]

omit translation [DecidableEq α] [DecidableEq β] in
theorem abstractMethods_map (g : List α → List β) (surface : Surface α) :
    (surface.map g).abstractMethods = surface.abstractMethods.map (.map g) := by
  simp only [abstractMethods, Surface.map, List.filter_map]
  rfl

/-- The unit over another alphabet is that of the names there. -/
theorem flatMap_unit (layout : Layout α) (surface : Surface α) :
    (unit letter layout surface).flatMap f =
      unit letter' (layout.map (·.flatMap f)) (surface.map (·.flatMap f)) := by
  have unnamed := translation.flatMap_eq_nil_iff surface.package
  have clause : (if surface.package = [] then []
        else written letter "package " ++ surface.package ++ written letter ";\n\n").flatMap f =
      if surface.package.flatMap f = [] then []
        else written letter' "package " ++ surface.package.flatMap f ++ written letter' ";\n\n" := by
    simp only [unnamed]
    split_ifs <;> simp (disch := decide) [translation.flatMap_written]
  have methods : (surface.abstractMethods.map (methodText letter layout.indent)).map (·.flatMap f) =
      (surface.abstractMethods.map (.map (·.flatMap f))).map (methodText letter' (layout.indent.flatMap f)) := by
    simp [Function.comp_def, translation.flatMap_methodText]
  simp (disch := decide) only [unit, header, List.flatMap_append, clause, flatMap_intercalate, methods,
    translation.flatMap_written, abstractMethods_map]
  rfl

end IsTranslation

/-! ## Characters -/

theorem written_id (text : String) : written id text = text.toList := List.map_id _

private theorem toList_eq_iff {text word : String} : text.toList = word.toList ↔ text = word := String.toList_inj

theorem defaultValue_toList (type : TypeName) :
    defaultValue id type.name.toList = type.defaultValue.toList := by
  have primitive : type.name.toList ∈ TypeName.primitives.map (written id) ↔ type.isPrimitive = true := by
    simp [written_id, TypeName.isPrimitive, toList_eq_iff]
  have boolean : type.name.toList = written id "boolean" ↔ type.isBoolean = true := by
    rw [written_id, toList_eq_iff, TypeName.isBoolean, beq_iff_eq]
  have void : type.name.toList = written id "void" ↔ type.isVoid = true := by
    rw [written_id, toList_eq_iff, TypeName.isVoid, beq_iff_eq]
  unfold defaultValue TypeName.defaultValue
  simp only [primitive, boolean, void]
  split_ifs <;> simp [written_id]

theorem methodText_toList (indent : String) (method : Method) :
    methodText id indent.toList (.ofMethod String.toList method) =
      (Implementation.methodText indent method).toList := by
  have parameters : parameterList id (.ofMethod String.toList method) =
      (Implementation.parameterList method).toList := by
    simp [parameterList, Implementation.parameterList, Text.toList_joined, written_id, Signature.ofMethod,
      Function.comp_def]
  have void : method.returnType.name.toList = written id "void" ↔ method.returnType.isVoid = true := by
    rw [written_id, toList_eq_iff, TypeName.isVoid, beq_iff_eq]
  unfold methodText bodyText Implementation.methodText
  rw [parameters]
  simp only [Signature.ofMethod, void, defaultValue_toList]
  split_ifs <;> simp [written_id, Text.repeated]

/-- Over characters a unit is the one that is written of strings. -/
theorem unit_toList (style : Implementation.Style) (type : Interface) :
    unit id (.ofStyle String.toList style) (.ofInterface String.toList type) =
      (Implementation.plainSource style type).toList := by
  have methods : (ofInterface String.toList type).abstractMethods =
      type.abstractMethods.map (.ofMethod String.toList) := by
    simp only [abstractMethods, ofInterface, List.filter_map, Interface.abstractMethods]
    rfl
  have unnamed : type.package.toList = [] ↔ type.package.isEmpty = true := by
    rw [String.isEmpty_iff, String.toList_eq_nil_iff]
  unfold unit header Implementation.plainSource Implementation.header Implementation.methodsText
    Implementation.className
  rw [methods]
  simp only [ofInterface, Layout.ofStyle, unnamed, String.toList_append, Text.toList_joined, written_id,
    List.map_map, Function.comp_def, methodText_toList]
  split_ifs <;> simp

/-! ## Code points -/

open CodePoint (utf16 ofString)

theorem isTranslation_char : IsTranslation id CodePoint.char fun c => [CodePoint.char c] where
  single _ _ := rfl
  some _ := List.cons_ne_nil _ _
  word name _ text := by
    have injective : Function.Injective (List.map CodePoint.char) :=
      List.map_injective_iff.mpr fun _ _ same => CodePoint.char.inj same
    rw [← List.map_eq_flatMap, written_id, written, injective.eq_iff]

theorem isTranslation_units : IsTranslation CodePoint.char Char.toNat CodePoint.units where
  single _ ascii := UnicodeEscape.units_ascii ascii
  some := CodePoint.units_ne_nil
  word name member text := by
    have ascii : ∀ word ∈ TypeName.primitives, ∀ c ∈ word.toList, c.toNat < 128 := by decide
    exact CodePoint.utf16_eq_word_iff (ascii name member)

theorem ofInterface_map (type : Interface) :
    (ofInterface String.toList type).map (List.map CodePoint.char) = ofInterface ofString type := by
  have method (method : Method) : (Signature.ofMethod String.toList method).map (List.map CodePoint.char) =
      Signature.ofMethod ofString method := by
    simp [Signature.map, Signature.ofMethod, ofString]
  simp [map, ofInterface, ofString, method, Function.comp_def]

/-- The unit that is written of strings is that of their code points. -/
theorem source_ofInterface (style : Implementation.Style) (type : Interface) :
    Implementation.source style type = source (.ofStyle ofString style) (.ofInterface ofString type) := by
  have points : ofString (Implementation.plainSource style type) =
      unit .char (.ofStyle ofString style) (.ofInterface ofString type) := by
    have unit := isTranslation_char.flatMap_unit (.ofStyle String.toList style) (.ofInterface String.toList type)
    simp only [← List.map_eq_flatMap, unit_toList] at unit
    rw [← ofInterface_map]
    exact unit
  rw [Implementation.source, UnicodeEscape.encoded, source, ← points, CodePoint.encode_ofString]

theorem IsWord.utf16 {text : List CodePoint} (word : IsWord .char text) : IsWord Char.toNat (utf16 text) := by
  have ascii : ∀ c ∈ separators, c.toNat < 128 := by decide
  exact fun c ends member => word c ends ((CodePoint.mem_utf16_iff (ascii c ends)).mp member)

theorem IsNamed.utf16 {surface : Surface CodePoint} (named : IsNamed .char surface) :
    IsNamed Char.toNat (surface.map utf16) where
  package := named.package.utf16
  simpleName := named.simpleName.utf16
  canonicalName := named.canonicalName.utf16
  methods method member := by
    rw [IsTranslation.abstractMethods_map] at member
    obtain ⟨method, among, rfl⟩ := List.mem_map.mp member
    have words := named.methods method among
    refine ⟨words.name.utf16, words.returnType.utf16, fun parameter member => ?_⟩
    obtain ⟨parameter, among, rfl⟩ := List.mem_map.mp member
    exact ⟨(words.parameters parameter among).1.utf16, (words.parameters parameter among).2.utf16⟩

/-- Units that are one text tell the code units of all names. -/
theorem utf16_of_source_eq {layout : Layout CodePoint} {surface other : Surface CodePoint}
    (blank : ∀ point ∈ layout.indent, point = .char ' ' ∨ point = .char '\t') (word : IsWord .char layout.suffix)
    (named : IsNamed .char surface) (other_named : IsNamed .char other)
    (same : source layout surface = source layout other) :
    utf16 surface.package = utf16 other.package ∧ utf16 surface.simpleName = utf16 other.simpleName ∧
      utf16 surface.canonicalName = utf16 other.canonicalName ∧
      surface.abstractMethods.map (Signature.map utf16) = other.abstractMethods.map (Signature.map utf16) := by
  have char_injective : Function.Injective CodePoint.char := fun _ _ same => CodePoint.char.inj same
  have toNat_injective : Function.Injective Char.toNat := fun _ _ same => Char.toNat_inj.mp same
  have absent (c : Char) (other : c ≠ ' ' ∧ c ≠ '\t') : CodePoint.char c ∉ layout.indent := fun member =>
    (blank _ member).elim (fun same => other.1 (char_injective same)) fun same => other.2 (char_injective same)
  have units : utf16 (unit .char layout surface) = utf16 (unit .char layout other) :=
    CodePoint.utf16_eq_of_encode_eq
      (no_backslash_unit char_injective (absent '\\' (by decide)) word named)
      (no_backslash_unit char_injective (absent '\\' (by decide)) word other_named) (String.ofList_inj.mp same)
  rw [utf16, utf16, isTranslation_units.flatMap_unit, isTranslation_units.flatMap_unit] at units
  have closing : Char.toNat '\x7d' ∉ utf16 layout.indent := fun member =>
    absent '\x7d' (by decide) ((CodePoint.mem_utf16_iff (by decide)).mp member)
  obtain ⟨packages, names, canonical, methods⟩ :=
    unit_unique toNat_injective closing word.utf16 named.utf16 other_named.utf16 units
  rw [IsTranslation.abstractMethods_map, IsTranslation.abstractMethods_map] at methods
  exact ⟨packages, names, canonical, methods⟩

/-! ## Names without pairs of surrogates -/

/-- No name of a method or of its parameters has a pair of surrogates in it. -/
structure IsUnpairedMethod (method : Signature CodePoint) : Prop where
  name : CodePoint.IsUnpaired method.name
  returnType : CodePoint.IsUnpaired method.returnType
  parameters : ∀ parameter ∈ method.parameters,
    CodePoint.IsUnpaired parameter.1 ∧ CodePoint.IsUnpaired parameter.2

/-- No name of a type or of its abstract methods has a pair of surrogates in it. -/
structure IsUnpaired (surface : Surface CodePoint) : Prop where
  package : CodePoint.IsUnpaired surface.package
  simpleName : CodePoint.IsUnpaired surface.simpleName
  canonicalName : CodePoint.IsUnpaired surface.canonicalName
  methods : ∀ method ∈ surface.abstractMethods, IsUnpairedMethod method

instance (method : Signature CodePoint) : Decidable (IsUnpairedMethod method) :=
  decidable_of_iff
    (CodePoint.IsUnpaired method.name ∧ CodePoint.IsUnpaired method.returnType ∧
      ∀ parameter ∈ method.parameters, CodePoint.IsUnpaired parameter.1 ∧ CodePoint.IsUnpaired parameter.2)
    ⟨fun names => ⟨names.1, names.2.1, names.2.2⟩,
      fun unpaired => ⟨unpaired.name, unpaired.returnType, unpaired.parameters⟩⟩

instance (surface : Surface CodePoint) : Decidable (IsUnpaired surface) :=
  decidable_of_iff
    (CodePoint.IsUnpaired surface.package ∧ CodePoint.IsUnpaired surface.simpleName ∧
      CodePoint.IsUnpaired surface.canonicalName ∧ ∀ method ∈ surface.abstractMethods, IsUnpairedMethod method)
    ⟨fun names => ⟨names.1, names.2.1, names.2.2.1, names.2.2.2⟩,
      fun unpaired => ⟨unpaired.package, unpaired.simpleName, unpaired.canonicalName, unpaired.methods⟩⟩

theorem eq_of_map_eq {ε δ : Type} {good : ε → Prop} {f : ε → δ}
    (apart : ∀ a b, good a → good b → f a = f b → a = b) {as bs : List ε} (all : ∀ a ∈ as, good a)
    (others : ∀ b ∈ bs, good b) (same : as.map f = bs.map f) : as = bs := by
  induction as generalizing bs with
  | nil => exact (List.map_eq_nil_iff.mp same.symm).symm
  | cons a as ih =>
    cases bs with
    | nil => cases same
    | cons b bs =>
      obtain ⟨first, rest⟩ := List.cons.inj same
      rw [apart a b (all a List.mem_cons_self) (others b List.mem_cons_self) first,
        ih (fun c member => all c (List.mem_cons_of_mem a member))
          (fun c member => others c (List.mem_cons_of_mem b member)) rest]

theorem method_of_utf16 {method other : Signature CodePoint} (unpaired : IsUnpairedMethod method)
    (other_unpaired : IsUnpairedMethod other) (same : method.map utf16 = other.map utf16) : method = other := by
  obtain ⟨name, returned, parameters, mark⟩ := method
  obtain ⟨other_name, other_returned, other_parameters, other_mark⟩ := other
  simp only [Signature.map, Signature.mk.injEq] at same
  obtain ⟨names, types, lists, rfl⟩ := same
  obtain rfl := CodePoint.utf16_injective unpaired.name other_unpaired.name names
  obtain rfl := CodePoint.utf16_injective unpaired.returnType other_unpaired.returnType types
  obtain rfl : parameters = other_parameters :=
    eq_of_map_eq (fun (_, _) (_, _) one two pair => Prod.ext
      (CodePoint.utf16_injective one.1 two.1 (Prod.mk.inj pair).1)
      (CodePoint.utf16_injective one.2 two.2 (Prod.mk.inj pair).2))
      unpaired.parameters other_unpaired.parameters lists
  rfl

/-- The compilation unit of a type is that of its names as code points. As long as no name has a pair of
surrogates in it, the units of two types are one text exactly if the types have the same names and
the same abstract methods in the same order: neither their default methods nor anything else about
them shows in the units, and the escapes take no difference away. -/
theorem source_eq_iff {layout : Layout CodePoint} {surface other : Surface CodePoint}
    (blank : ∀ point ∈ layout.indent, point = .char ' ' ∨ point = .char '\t') (word : IsWord .char layout.suffix)
    (named : IsNamed .char surface) (other_named : IsNamed .char other)
    (unpaired : IsUnpaired surface) (other_unpaired : IsUnpaired other) :
    (∀ style type, Implementation.source style type =
      source (.ofStyle ofString style) (.ofInterface ofString type)) ∧
    (source layout surface = source layout other ↔
      surface.package = other.package ∧ surface.simpleName = other.simpleName ∧
        surface.canonicalName = other.canonicalName ∧
        surface.abstractMethods = other.abstractMethods) := by
  refine ⟨source_ofInterface, fun same => ?_, fun ⟨packages, names, canonical, methods⟩ => ?_⟩
  · obtain ⟨packages, names, canonical, methods⟩ := utf16_of_source_eq blank word named other_named same
    exact ⟨CodePoint.utf16_injective unpaired.package other_unpaired.package packages,
      CodePoint.utf16_injective unpaired.simpleName other_unpaired.simpleName names,
      CodePoint.utf16_injective unpaired.canonicalName other_unpaired.canonicalName canonical,
      eq_of_map_eq (fun _ _ => method_of_utf16) unpaired.methods other_unpaired.methods methods⟩
  · unfold source unit header
    rw [packages, names, canonical, methods]

/-- A type with names outside ASCII, one of them with a surrogate of its own, and with a default method. -/
def kitchen : Surface CodePoint where
  package := ofString "große.küche"
  simpleName := .surrogate ⟨0x123, by decide⟩ :: ofString "Menü"
  canonicalName := ofString "große.küche." ++ .surrogate ⟨0x123, by decide⟩ :: ofString "Menü"
  methods :=
    [⟨ofString "süß", ofString "boolean",
      [(ofString "große.küche.Maß", ofString "maß"), (ofString "int[]", ofString "größen")], true⟩,
     ⟨ofString "räumen", ofString "void", [], true⟩, ⟨ofString "öffnen", ofString "int", [], false⟩]

/-- The default method does not show in the unit of the type, the order of the others does. -/
theorem source_eq_iff_kitchen :
    IsNamed .char kitchen ∧ IsUnpaired kitchen ∧
    source (.ofStyle ofString .standard) kitchen =
      source (.ofStyle ofString .standard) { kitchen with methods := kitchen.abstractMethods } ∧
    source (.ofStyle ofString .standard) kitchen ≠
      source (.ofStyle ofString .standard) { kitchen with methods := kitchen.abstractMethods.reverse } := by
  have named : IsNamed .char kitchen := by decide
  have unpaired : IsUnpaired kitchen := by decide
  refine ⟨named, unpaired, ?_, ?_⟩
  · exact (source_eq_iff (by decide) (by decide) named (by decide) unpaired (by decide)).2.mpr (by decide)
  · intro same
    exact absurd ((source_eq_iff (by decide) (by decide) named (by decide) unpaired (by decide)).2.mp same)
      (by decide)

/-- An empty interface of a name in the unnamed package. -/
def bare (name : List CodePoint) : Surface CodePoint := ⟨[], name, name, []⟩

/-- The pair of surrogates that a character beyond the basic plane is written with has the unit of this character,
although it is another name. -/
theorem source_of_pair : IsNamed .char (bare [.surrogate 0, .surrogate 0x400]) ∧
    IsNamed .char (bare [.char (Char.ofNat 0x10000)]) ∧
    source (.ofStyle ofString .standard) (bare [.surrogate 0, .surrogate 0x400]) =
      source (.ofStyle ofString .standard) (bare [.char (Char.ofNat 0x10000)]) ∧
    (bare [.surrogate 0, .surrogate 0x400]).simpleName ≠ (bare [.char (Char.ofNat 0x10000)]).simpleName := by
  refine ⟨by decide, by decide, ?_, by decide⟩
  decide +kernel

end JavaStubs.Surface

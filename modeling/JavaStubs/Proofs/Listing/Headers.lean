import JavaStubs.Proofs.Listing.Sections

/-!
Headings that declare a class and its supertypes. Each type may carry type arguments in angle brackets,
which may lie in one another to any depth and hold any words and commas; nothing of them is taken for a
kind, a name or a supertype.
-/
namespace JavaStubs.Listing

open Text (fields words isBlank isLowerAscii)

variable {rest : List Char}

/-! ## Brackets -/

section Brackets

variable {text : List Char}

/-- The angle brackets of a text come in pairs, which may lie in one another. -/
inductive IsBalanced : List Char → Prop where
  | nil : IsBalanced []
  | plain {c : Char} {text : List Char} (opens : c ≠ '<') (closes : c ≠ '>') (others : IsBalanced text) :
      IsBalanced (c :: text)
  | group {inside text : List Char} (inner : IsBalanced inside) (others : IsBalanced text) :
      IsBalanced ('<' :: (inside ++ '>' :: text))

theorem IsBalanced.append_plain (front : List Char) (plain : ∀ c ∈ front, c ≠ '<' ∧ c ≠ '>')
    (others : IsBalanced text) : IsBalanced (front ++ text) := by
  induction front with
  | nil => exact others
  | cons c front ih =>
    rw [List.forall_mem_cons] at plain
    exact .plain plain.1.1 plain.1.2 (ih plain.2)

theorem IsBalanced.of_plain (plain : ∀ c ∈ text, c ≠ '<' ∧ c ≠ '>') : IsBalanced text := by
  rw [← List.append_nil text]
  exact append_plain text plain .nil

/-- Inside of brackets a balanced text is erased, however deep it goes. -/
theorem IsBalanced.erasedFrom_append (balanced : IsBalanced text) (depth : Nat) (rest : List Char) :
    erasedFrom (depth + 1) (text ++ rest) = erasedFrom (depth + 1) rest := by
  induction balanced generalizing depth rest with
  | nil => rfl
  | plain opens closes _ ih =>
    rw [List.cons_append, erasedFrom]
    · exact ih depth rest
    · exact opens
    · exact closes
  | group _ _ ih_inner ih =>
    rw [List.cons_append, List.append_assoc, erasedFrom, ih_inner, List.cons_append, erasedFrom,
      Nat.add_sub_cancel]
    exact ih depth rest

theorem erased_append_plain {front : List Char} (plain : ∀ c ∈ front, c ≠ '<' ∧ c ≠ '>') :
    erased (front ++ rest) = front ++ erased rest := by
  unfold erased
  induction front with
  | nil => rfl
  | cons c front ih =>
    rw [List.forall_mem_cons] at plain
    rw [List.cons_append, erasedFrom, ih plain.2, List.cons_append]
    · exact plain.1.1
    · exact plain.1.2

theorem erased_group (balanced : IsBalanced text) : erased ('<' :: (text ++ '>' :: rest)) = erased rest := by
  unfold erased
  rw [erasedFrom, balanced.erasedFrom_append, erasedFrom]

end Brackets

/-! ## Declarations -/

/-- A type as a declaration names it, with what stands between angle brackets behind its name. -/
structure Mention where
  name : List Char
  arguments : Option (List Char)

namespace Mention

/-- A type as it is written. -/
def text (mention : Mention) : List Char :=
  mention.name ++
    match mention.arguments with
    | some inside => '<' :: (inside ++ ['>'])
    | none => []

end Mention

/-- A word that can be told from what stands around it. -/
def IsTypeWord (word : List Char) : Prop :=
  word ≠ [] ∧ ∀ c ∈ word, isBlank c = false ∧ c ≠ ',' ∧ c ≠ '<' ∧ c ≠ '>'

instance (word : List Char) : Decidable (IsTypeWord word) := inferInstanceAs (Decidable (_ ∧ _))

/-- The words that stand in front of a list of supertypes. -/
def clauseWords : List (List Char) := ["extends", "implements"].map String.toList

/-- The words that no type has for its name. -/
def reserved : List (List Char) := kinds ++ clauseWords

/-- The name of a type is a word that is not reserved, and its arguments have their brackets in pairs. -/
structure Mention.IsProper (mention : Mention) : Prop where
  word : IsTypeWord mention.name
  free : mention.name ∉ reserved
  balanced : ∀ inside, mention.arguments = some inside → IsBalanced inside

/-- A declaration of a class: modifiers, a kind, the class, and the types that it extends and implements. -/
structure Header where
  modifiers : List (List Char)
  kind : String
  type : Mention
  extended : List Mention
  implemented : List Mention

/-- A list of types behind the word that it is for; nothing if there are none. -/
def clause (word : List Char) (types : List Mention) : List Char :=
  match types with
  | [] => []
  | types => ' ' :: (word ++ ' ' :: [',', ' '].intercalate (types.map Mention.text))

namespace Header

/-- A declaration behind its kind. -/
def named (header : Header) : List Char :=
  header.type.text ++ (clause "extends".toList header.extended ++ clause "implements".toList header.implemented)

def line (header : Header) : List Char :=
  header.modifiers.flatMap (· ++ [' ']) ++ (header.kind.toList ++ ' ' :: header.named)

/-- The supertypes of a declaration, in the order in which they are written. -/
def supertypes (header : Header) : List Mention := header.extended ++ header.implemented

/-- The modifiers are words in small letters, the kind is one of those there are, and the types are named
properly. -/
structure IsProper (header : Header) : Prop where
  small : ∀ word ∈ header.modifiers, word ≠ [] ∧ ∀ c ∈ word, isLowerAscii c = true
  kind_mem : header.kind.toList ∈ kinds
  type : header.type.IsProper
  supertypes : ∀ type ∈ header.supertypes, type.IsProper

end Header

/-! ## Names in a declaration -/

/-- The words of a text outside of angle brackets. -/
def headedWords (text : List Char) : List (List Char) :=
  words ((erased text).map fun c => if c == ',' then ' ' else c)

/-- Words end at blanks and at commas. -/
def EndsWord (rest : List Char) : Prop := ∀ c ∈ rest.head?, c = ' ' ∨ c = ','

theorem headedWords_gap {c : Char} (gap : c = ' ' ∨ c = ',') : headedWords (c :: rest) = headedWords rest := by
  have kept : erased (c :: rest) = c :: erased rest := by
    rcases gap with rfl | rfl <;> rfl
  rw [headedWords, kept, List.map_cons, Text.words_cons_blank, headedWords]
  rcases gap with rfl | rfl <;> decide

theorem headedWords_word {word : List Char} (is_word : IsTypeWord word) (ends : EndsWord rest) :
    headedWords (word ++ rest) = word :: headedWords rest := by
  obtain ⟨some_word, all⟩ := is_word
  have plain : ∀ c ∈ word, c ≠ '<' ∧ c ≠ '>' := fun c member => (all c member).2.2
  have solid : ∀ c ∈ word, isBlank c = false := fun c member => (all c member).1
  have same : word.map (fun c => if c == ',' then ' ' else c) = word := by
    conv_rhs => rw [← List.map_id word]
    exact List.map_congr_left fun c member => if_neg (by simpa using (all c member).2.1)
  cases rest with
  | nil =>
    have whole : headedWords (word ++ []) = words word := by
      rw [headedWords, erased_append_plain plain, List.map_append, same]
      exact congrArg words (List.append_nil word)
    rw [whole, Text.words_of_solid some_word solid]
    rfl
  | cons c rest =>
    have gap := ends c rfl
    have kept : erased (c :: rest) = c :: erased rest := by
      rcases gap with rfl | rfl <;> rfl
    have blank : isBlank (if c == ',' then ' ' else c) = true := by
      rcases gap with rfl | rfl <;> decide
    rw [headedWords_gap gap, headedWords, erased_append_plain plain, List.map_append, same, kept, List.map_cons,
      Text.words_append_blank some_word solid blank, headedWords]

/-- The arguments of a type are no words of the declaration. -/
theorem headedWords_mention {mention : Mention} (proper : mention.IsProper) (ends : EndsWord rest) :
    headedWords (mention.text ++ rest) = mention.name :: headedWords rest := by
  have plain : ∀ c ∈ mention.name, c ≠ '<' ∧ c ≠ '>' := fun c member => (proper.word.2 c member).2.2
  have bare : erased (mention.text ++ rest) = erased (mention.name ++ rest) := by
    rw [Mention.text, List.append_assoc, erased_append_plain plain, erased_append_plain plain]
    cases arguments : mention.arguments with
    | none => rfl
    | some inside =>
      have group : erased ('<' :: (inside ++ '>' :: rest)) = erased rest :=
        erased_group (proper.balanced inside arguments)
      simpa using group
  rw [← headedWords_word proper.word ends, headedWords, bare, headedWords]

theorem headedWords_listed {types : List Mention} (some_type : types ≠ [])
    (proper : ∀ type ∈ types, type.IsProper) (ends : EndsWord rest) :
    headedWords ([',', ' '].intercalate (types.map Mention.text) ++ rest) =
      types.map Mention.name ++ headedWords rest := by
  induction types with
  | nil => exact absurd rfl some_type
  | cons type types ih =>
    obtain ⟨first, others⟩ := List.forall_mem_cons.mp proper
    cases types with
    | nil => simpa using headedWords_mention first ends
    | cons next types =>
      have gap : EndsWord ([',', ' '] ++ ([',', ' '].intercalate ((next :: types).map Mention.text) ++ rest)) := by
        simp [EndsWord]
      have split : [',', ' '].intercalate ((type :: next :: types).map Mention.text) ++ rest = type.text ++
          ([',', ' '] ++ ([',', ' '].intercalate ((next :: types).map Mention.text) ++ rest)) := by
        simp [List.intercalate_cons_cons]
      rw [split, headedWords_mention first gap, List.cons_append, headedWords_gap (.inr rfl), List.cons_append,
        headedWords_gap (.inl rfl), List.nil_append, ih (by simp) others]
      rfl

/-- The types of a declaration, without the words for what they are. -/
def typeNames (words : List (List Char)) : List (List Char) := words.filter fun word => !clauseWords.contains word

theorem typeNames_clause {word : List Char} {types : List Mention} (leads : word ∈ clauseWords)
    (proper : ∀ type ∈ types, type.IsProper) (ends : EndsWord rest) :
    typeNames (headedWords (clause word types ++ rest)) =
      types.map Mention.name ++ typeNames (headedWords rest) := by
  cases types with
  | nil => rfl
  | cons type types =>
    have is_word : IsTypeWord word := by
      have both : ∀ word ∈ clauseWords, IsTypeWord word := by decide
      exact both word leads
    have kept : ∀ name ∈ (type :: types).map Mention.name, (!clauseWords.contains name) = true := by
      rw [List.forall_mem_map]
      intro other member
      have free := (proper other member).free
      rw [reserved, List.mem_append, not_or] at free
      simpa using free.2
    have gap : EndsWord (' ' :: ([',', ' '].intercalate ((type :: types).map Mention.text) ++ rest)) := by
      simp [EndsWord]
    have split : clause word (type :: types) ++ rest =
        ' ' :: (word ++ ' ' :: ([',', ' '].intercalate ((type :: types).map Mention.text) ++ rest)) := by
      simp [clause]
    rw [split, headedWords_gap (.inl rfl), headedWords_word is_word gap, headedWords_gap (.inl rfl),
      headedWords_listed (by simp) proper ends, typeNames, List.filter_cons_of_neg (by simpa using leads),
      List.filter_append, List.filter_eq_self.mpr kept, typeNames]

namespace Header

variable {header : Header}

theorem IsProper.extended (proper : header.IsProper) : ∀ type ∈ header.extended, type.IsProper :=
  fun type member => proper.supertypes type (List.mem_append_left _ member)

theorem IsProper.implemented (proper : header.IsProper) : ∀ type ∈ header.implemented, type.IsProper :=
  fun type member => proper.supertypes type (List.mem_append_right _ member)

end Header

theorem endsWord_nil : EndsWord [] := nofun

theorem endsWord_clause {word : List Char} {types : List Mention} (ends : EndsWord rest) :
    EndsWord (clause word types ++ rest) := by
  cases types with
  | nil => exact ends
  | cons type types => simp [EndsWord, clause]

theorem headedNames_named {header : Header} (proper : header.IsProper) :
    ∃ others, headedNames header.named = String.ofList header.type.name :: others ∧
      (others.filter fun word => word != "extends" && word != "implements") =
        header.supertypes.map (String.ofList ·.name) := by
  have no_more : clause "implements".toList header.implemented =
      clause "implements".toList header.implemented ++ [] := (List.append_nil _).symm
  have ends : EndsWord (clause "implements".toList header.implemented) := by
    rw [no_more]
    exact endsWord_clause endsWord_nil
  have leads : "extends".toList ∈ clauseWords ∧ "implements".toList ∈ clauseWords := by decide
  refine ⟨(headedWords (clause "extends".toList header.extended ++
    clause "implements".toList header.implemented)).map String.ofList, ?_, ?_⟩
  · change (headedWords header.named).map String.ofList = _
    rw [Header.named, headedWords_mention proper.type (endsWord_clause ends), List.map_cons]
  · have same : ((fun word => word != "extends" && word != "implements") ∘ String.ofList) =
        fun word => !clauseWords.contains word := by
      funext word
      have reads (text : String) : String.ofList word = text ↔ word = text.toList := by
        rw [← String.toList_inj, String.toList_ofList]
      rw [Bool.eq_iff_iff]
      simp [clauseWords, reads]
    have nothing : typeNames (headedWords []) = [] := rfl
    rw [List.filter_map, same]
    change (typeNames _).map String.ofList = _
    rw [typeNames_clause leads.1 proper.extended ends, no_more,
      typeNames_clause leads.2 proper.implemented endsWord_nil, nothing, List.append_nil, ← List.map_append,
      List.map_map, Header.supertypes]
    rfl

/-! ## The kind in a declaration -/

/-- No kind can be read from fields: each one in front of the first that is no word in small letters is another
word. -/
inductive IsKindless : List (List Char) → Prop where
  | nil : IsKindless []
  | stop {word : List Char} {more : List (List Char)} {c : Char} (member : c ∈ word)
      (capital : isLowerAscii c = false) : IsKindless (word :: more)
  | pass {word : List Char} {more : List (List Char)} (other : word ∉ kinds) (others : IsKindless more) :
      IsKindless (word :: more)

variable {words more modifiers : List (List Char)} {kind : String} {next : List Char}

theorem IsKindless.not_split (kindless : IsKindless words) : ¬ IsSplit words modifiers kind next more := by
  induction kindless generalizing modifiers with
  | nil =>
    intro split
    simpa using split.words_eq
  | stop member capital =>
    intro split
    exact absurd (split.first_small.2 _ member) (by simp [capital])
  | pass other _ ih =>
    intro split
    cases modifiers with
    | nil =>
      obtain ⟨rfl, -⟩ := List.cons.inj split.words_eq
      exact other split.kind_mem
    | cons first modifiers => exact ih split.tail

/-- In front of fields without a kind the last word can be the kind, and no later one. -/
theorem IsSplit.length_le {front : List (List Char)} {word : List Char}
    (split : IsSplit (front ++ word :: words) modifiers kind next more) (kindless : IsKindless words) :
    modifiers.length ≤ front.length := by
  induction front generalizing modifiers with
  | nil =>
    cases modifiers with
    | nil => exact Nat.le_refl _
    | cons first modifiers => exact absurd split.tail kindless.not_split
  | cons first front ih =>
    cases modifiers with
    | nil => exact Nat.zero_le _
    | cons other modifiers => exact Nat.succ_le_succ (ih split.tail)

/-- A field with anything but small letters ends the search for a kind. -/
theorem isKindless_of_capital {front : List Char} {c : Char} (undivided : ' ' ∉ front)
    (capital : isLowerAscii c = false) (solid : c ≠ ' ') : IsKindless (fields (· == ' ') (front ++ c :: rest)) := by
  obtain ⟨first, more, all⟩ := List.exists_cons_of_ne_nil (Text.fields_ne_nil (· == ' ') rest)
  have behind : fields (· == ' ') (c :: rest) = (c :: first) :: more := by
    rw [fields, if_neg (by simpa using solid), all]
  have before : fields (· == ' ') front = [] ++ [front] := Path.fields_eq_singleton undivided
  rw [Text.fields_append before behind]
  exact .stop (List.mem_append_right _ List.mem_cons_self) capital

/-- What may follow a type in a declaration: nothing, a comma, or a blank and fields without a kind. -/
inductive Follows : List Char → Prop where
  | nil : Follows []
  | comma (rest : List Char) : Follows (',' :: rest)
  | blank {rest : List Char} (kindless : IsKindless (fields (· == ' ') rest)) : Follows (' ' :: rest)

theorem Follows.isKindless_mention {mention : Mention} (follows : Follows rest) (proper : mention.IsProper) :
    IsKindless (fields (· == ' ') (mention.text ++ rest)) := by
  have undivided : ' ' ∉ mention.name := fun member => absurd (proper.word.2 ' ' member).1 (by decide)
  have other : mention.name ∉ kinds := fun member => proper.free (List.mem_append_left _ member)
  cases arguments : mention.arguments with
  | some inside =>
    have split : mention.text ++ rest = mention.name ++ '<' :: (inside ++ '>' :: rest) := by
      simp [Mention.text, arguments]
    rw [split]
    exact isKindless_of_capital undivided (by decide) (by decide)
  | none =>
    have split : mention.text ++ rest = mention.name ++ rest := by simp [Mention.text, arguments]
    rw [split]
    cases follows with
    | nil =>
      rw [List.append_nil, Path.fields_eq_singleton undivided]
      exact .pass other .nil
    | comma rest => exact isKindless_of_capital undivided (by decide) (by decide)
    | blank kindless =>
      rw [Path.fields_append undivided]
      exact .pass other kindless

theorem Follows.clause {word : List Char} {types : List Mention} (follows : Follows rest)
    (leads : word ∈ clauseWords) (proper : ∀ type ∈ types, type.IsProper) :
    Follows (clause word types ++ rest) := by
  cases types with
  | nil => exact follows
  | cons type types =>
    have plain : ∀ word ∈ clauseWords, ' ' ∉ word ∧ word ∉ kinds := by decide
    obtain ⟨undivided, other⟩ := plain word leads
    obtain ⟨first, -⟩ := List.forall_mem_cons.mp proper
    have behind : IsKindless (fields (· == ' ') ([',', ' '].intercalate ((type :: types).map Mention.text) ++ rest)) := by
      cases types with
      | nil => simpa using follows.isKindless_mention first
      | cons next types =>
        have split : [',', ' '].intercalate ((type :: next :: types).map Mention.text) ++ rest = type.text ++
            ',' :: (' ' :: ([',', ' '].intercalate ((next :: types).map Mention.text) ++ rest)) := by
          simp [List.intercalate_cons_cons]
        rw [split]
        exact (Follows.comma _).isKindless_mention first
    have split : Listing.clause word (type :: types) ++ rest =
        ' ' :: (word ++ ' ' :: ([',', ' '].intercalate ((type :: types).map Mention.text) ++ rest)) := by
      simp [Listing.clause]
    rw [split]
    refine .blank ?_
    rw [Path.fields_append undivided]
    exact .pass other behind

/-- A declaration is a heading with its own kind: behind it no other one can be read. -/
theorem Header.IsProper.heads {header : Header} (proper : header.IsProper) :
    Heads header.line header.kind header.named := by
  have leads : "extends".toList ∈ clauseWords ∧ "implements".toList ∈ clauseWords := by decide
  have last : Follows (Listing.clause "implements".toList header.implemented) := by
    rw [← List.append_nil (Listing.clause _ _)]
    exact Follows.nil.clause leads.2 proper.implemented
  have kindless : IsKindless (fields (· == ' ') header.named) :=
    (last.clause leads.1 proper.extended).isKindless_mention proper.type
  have begins : header.named.head?.any (!isBlank ·) = true := by
    obtain ⟨some_word, all⟩ := proper.type.word
    obtain ⟨c, word, name⟩ := List.exists_cons_of_ne_nil some_word
    have solid : isBlank c = false := (all c (by simp [name])).1
    simp [Header.named, Mention.text, name, solid]
  have heading : IsHeading header.line header.modifiers header.kind header.named :=
    ⟨rfl, proper.small, proper.kind_mem, begins⟩
  refine ⟨header.modifiers, heading, fun others kind rest also => ?_⟩
  obtain ⟨first, more, split, own⟩ := heading.split
  obtain ⟨next, behind, -, other⟩ := also.split
  rw [own.words_eq, ← split] at other
  exact other.length_le kindless

/-! ## Lines behind a declaration -/

/-- Two listings have the same name, kind and supertypes. -/
structure SameHeader (listing other : Listing) : Prop where
  name : other.name = listing.name
  kind : other.kind = listing.kind
  supertypes : other.supertypes = listing.supertypes

theorem SameHeader.refl (listing : Listing) : SameHeader listing listing := ⟨rfl, rfl, rfl⟩

theorem SameHeader.trans {first second third : Listing} (before : SameHeader first second)
    (after : SameHeader second third) : SameHeader first third :=
  ⟨after.name.trans before.name, after.kind.trans before.kind, after.supertypes.trans before.supertypes⟩

theorem sameHeader_memberStep (listing : Listing) (pending : Option Declaration) (line : List Char) :
    SameHeader listing (listing.memberStep pending line).2 := by
  have added (text descriptor flags : List Char) : SameHeader listing (listing.withMember text descriptor flags) := by
    unfold withMember
    split
    · exact ⟨rfl, rfl, rfl⟩
    · exact .refl listing
  unfold memberStep
  dsimp only
  split
  · exact .refl listing
  · split
    · exact .refl listing
    · split
      · exact .refl listing
      · split
        · exact .refl listing
        · split
          · exact .refl listing
          · split
            · exact added _ _ _
            · exact .refl listing

theorem sameHeader_withInner (listing : Listing) (line : List Char) :
    SameHeader listing (listing.withInner line) := by
  unfold withInner
  split
  · split
    · exact ⟨rfl, rfl, rfl⟩
    · exact .refl listing
  · exact .refl listing

/-- Behind the preamble no line touches what the header says. -/
theorem sameHeader_step {place next : Place} {listing after : Listing} {line : List Char}
    (behind : place ≠ .preamble) (step : place.step listing line = .ok (next, after)) :
    SameHeader listing after := by
  cases place with
  | preamble => exact absurd rfl behind
  | header =>
    rw [Place.step] at step
    split at step
    · cases step
      exact ⟨rfl, rfl, rfl⟩
    · cases step
      exact .refl listing
  | members pending =>
    have kept := sameHeader_memberStep listing pending line
    rw [Except.ok.inj step] at kept
    exact kept
  | trailer =>
    cases step
    exact .refl listing
  | innerClasses =>
    rw [Place.step] at step
    split at step
    · cases step
      exact .refl listing
    · cases step
      exact sameHeader_withInner listing line

theorem readFrom_sameHeader {place : Place} (behind : place ≠ .preamble) (listing : Listing)
    (lines : List (List Char)) :
    ∃ after, readFrom place listing lines = .ok after ∧ SameHeader listing after := by
  induction lines generalizing place listing with
  | nil => exact ⟨listing, rfl, .refl listing⟩
  | cons line lines ih =>
    obtain ⟨next, between, step, still⟩ := step_behind behind listing line
    obtain ⟨after, done, same⟩ := ih still between
    rw [readFrom_cons step]
    exact ⟨after, done, (sameHeader_step behind step).trans same⟩

/-! ## Reading a declaration -/

/-- The first heading of a text, if it is a proper declaration, gives the bare names of the class and of its
supertypes, and the kind, whatever stands in angle brackets and whatever lines follow. -/
theorem read_header (header : Header) (proper : header.IsProper) (text : String) (before after : List (List Char))
    (split : Text.lines text.toList = before ++ header.line :: after)
    (unheaded : ∀ line ∈ before, ∀ modifiers kind rest, ¬ IsHeading line modifiers kind rest) :
    ∃ listing, read text = .ok listing ∧ listing.name = String.ofList header.type.name ∧
      listing.kind = header.kind ∧ listing.supertypes = header.supertypes.map (String.ofList ·.name) := by
  obtain ⟨others, names, supertypes⟩ := headedNames_named proper
  have named : headedNames header.named ≠ [] := by simp [names]
  obtain ⟨listing, done, same⟩ := readFrom_sameHeader (nofun : Place.header ≠ .preamble) { empty with
    name := (headedNames header.named).headD ""
    kind := header.kind
    supertypes := (headedNames header.named).tail.filter fun word =>
      word != "extends" && word != "implements" } after
  refine ⟨listing, ?_, ?_, same.kind, ?_⟩
  · rw [read, split, readFrom_append fun line member => step_preamble (unheaded line member),
      readFrom_cons (step_heading proper.heads named), done]
  · rw [same.name, names]
    rfl
  · rw [same.supertypes, names]
    exact supertypes

/-- A declaration of a class with arguments in arguments, before its supertypes and in them. -/
def declared : Header where
  modifiers := ["public".toList, "final".toList]
  kind := "class"
  type := ⟨"a.A".toList, some "T extends B<C, D> & E, class U".toList⟩
  extended := [⟨"a.F".toList, some "? super G<H<I>, J>".toList⟩]
  implemented := [⟨"K".toList, none⟩, ⟨"b.L".toList, some "implements M, ?".toList⟩]

theorem declared_isProper : declared.IsProper := by
  have pairs : IsBalanced "T extends B<C, D> & E, class U".toList :=
    .append_plain "T extends B".toList (by decide) (@IsBalanced.group "C, D".toList _ (.of_plain (by decide))
      (.of_plain (by decide)))
  have nested : IsBalanced "? super G<H<I>, J>".toList :=
    .append_plain "? super G".toList (by decide) (@IsBalanced.group "H<I>, J".toList _
      (.append_plain "H".toList (by decide) (@IsBalanced.group "I".toList _ (.of_plain (by decide))
        (.of_plain (by decide)))) .nil)
  refine ⟨by decide, by decide, ⟨by decide, by decide, ?_⟩, ?_⟩
  · rintro _ ⟨⟩
    exact pairs
  · intro type member
    rcases List.mem_cons.mp member with rfl | member
    · refine ⟨by decide, by decide, ?_⟩
      rintro _ ⟨⟩
      exact nested
    · rcases List.mem_cons.mp member with rfl | member
      · exact ⟨by decide, by decide, nofun⟩
      · obtain rfl := List.mem_singleton.mp member
        refine ⟨by decide, by decide, ?_⟩
        rintro _ ⟨⟩
        exact .of_plain (by decide)

/-- A note in front of a declaration, and a class that the declaration is not of behind it. -/
def listedText : String :=
  String.ofList ("Compiled from \"A.java\"\n".toList ++ declared.line ++ "\nclass Z extends Y\n".toList)

theorem read_header_declared :
    String.ofList declared.line =
        "public final class a.A<T extends B<C, D> & E, class U> extends a.F<? super G<H<I>, J>> implements K, " ++
          "b.L<implements M, ?>" ∧
      ∃ listing, read listedText = .ok listing ∧ listing.name = "a.A" ∧ listing.kind = "class" ∧
        listing.supertypes = ["a.F", "K", "b.L"] := by
  have unread : heading? (fields (· == ' ') "Compiled from \"A.java\"".toList) = none := by decide
  refine ⟨by decide +kernel, ?_⟩
  exact read_header declared declared_isProper listedText ["Compiled from \"A.java\"".toList]
    ["class Z extends Y".toList] (by decide +kernel)
    fun line member => List.mem_singleton.mp member ▸ heading?_eq_none_iff.mp unread

end JavaStubs.Listing

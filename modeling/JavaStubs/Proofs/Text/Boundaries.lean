import JavaStubs.Proofs.Json.Visible
import JavaStubs.Proofs.Text.Lines
import JavaStubs.Value.Display

/-!
Where the line boundaries of a text come from. A message is put together from words of its own, numbers, texts and
values in quotes, and texts that are taken over as they are. Only those can bring a line boundary into it.
-/
namespace JavaStubs

namespace Text

open UnicodeEscape (hex4)

/-- Every line boundary in a text stands in one of the texts that it takes over as they are. -/
def TakesOver (taken : List String) (text : String) : Prop :=
  ∀ c ∈ text.toList, isLineBoundary c = true → ∃ source ∈ taken, c ∈ source.toList

/-- The characters that end a line have no graphic form. -/
theorem isLineBoundary_of_printable {c : Char} (printable : isPrintable c = true) : isLineBoundary c = false := by
  have none : ∀ boundary ∈ [10, 11, 12, 13, 28, 29, 30, 133, 8232, 8233].map Char.ofNat,
      isPrintable boundary = false := by decide +kernel
  rw [Bool.eq_false_iff]
  intro ends
  have numbers : c.toNat ∈ [10, 11, 12, 13, 28, 29, 30, 133, 8232, 8233] := by
    simp only [isLineBoundary, inRanges, List.any_cons, List.any_nil, Bool.or_eq_true, Bool.and_eq_true,
      decide_eq_true_eq, Bool.or_false] at ends
    simp only [List.mem_cons, List.not_mem_nil, or_false]
    omega
  have same : Char.ofNat c.toNat = c := Char.ofNat_toNat c
  rw [none c (List.mem_map.mpr ⟨_, numbers, same⟩)] at printable
  cases printable

theorem isLineBoundary_of_visible {c : Char} (visible : IsVisible c) : isLineBoundary c = false := by
  obtain ⟨low, high⟩ := visible
  refine isLineBoundary_of_printable ?_
  rw [isPrintable, if_pos (by omega), decide_eq_true_iff]
  exact low

theorem isWhole_of_visible {line : List Char} (visible : ∀ c ∈ line, IsVisible c) : IsWhole line :=
  fun c member => isLineBoundary_of_visible (visible c member)

/-- A text that is given by its letters takes up one line if none of them ends a line. -/
theorem isWhole_constant {text : String} {letters : List Char} (spelled : text = String.ofList letters)
    (none : letters.any isLineBoundary = false) : IsWhole text.toList := by
  rw [spelled, String.toList_ofList]
  exact fun c member => by simpa using List.any_eq_false.mp none c member

namespace TakesOver

variable {taken others : List String} {text more : String}

theorem of_whole (whole : IsWhole text.toList) : TakesOver taken text := fun c member ends => by
  rw [whole c member] at ends
  cases ends

theorem of_visible (visible : ∀ c ∈ text.toList, IsVisible c) : TakesOver taken text :=
  of_whole (isWhole_of_visible visible)

theorem constant {letters : List Char} (spelled : text = String.ofList letters)
    (none : letters.any isLineBoundary = false) : TakesOver taken text := of_whole (isWhole_constant spelled none)

theorem itself (member : text ∈ taken) : TakesOver taken text := fun _ inside _ => ⟨text, member, inside⟩

theorem append (first : TakesOver taken text) (second : TakesOver taken more) : TakesOver taken (text ++ more) := by
  intro c member ends
  rw [String.toList_append, List.mem_append] at member
  rcases member with inside | inside
  · exact first c inside ends
  · exact second c inside ends

theorem within {front behind : String} (inside : TakesOver taken text) (first : TakesOver taken front)
    (last : TakesOver taken behind) : TakesOver taken (front ++ text ++ behind) :=
  (first.append inside).append last

theorem mono (takes : TakesOver taken text) (all : ∀ source ∈ taken, source ∈ others) : TakesOver others text := by
  intro c member ends
  obtain ⟨source, held, inside⟩ := takes c member ends
  exact ⟨source, all source held, inside⟩

theorem head : TakesOver (text :: taken) text := itself List.mem_cons_self

theorem later {source : String} (takes : TakesOver taken text) : TakesOver (source :: taken) text :=
  takes.mono fun _ held => List.mem_cons_of_mem source held

theorem joined {sep : String} {texts : List String} (between : TakesOver taken sep)
    (each : ∀ text ∈ texts, TakesOver taken text) : TakesOver taken (Text.joined sep texts) := by
  fun_induction Text.joined sep texts with
  | case1 => exact constant rfl rfl
  | case2 text => exact each text List.mem_cons_self
  | case3 text next rest ih =>
    have first := each text List.mem_cons_self
    exact (first.append between).append (ih fun other member => each other (List.mem_cons_of_mem text member))

theorem gathered {texts : List String} (each : ∀ text ∈ texts, TakesOver taken text) :
    TakesOver taken (String.join texts) := by
  intro c member ends
  rw [String.toList_join] at member
  obtain ⟨text, held, inside⟩ := List.mem_flatMap.mp member
  exact each text held c inside ends

/-- Where no line ends in the texts that are taken over, none ends in the whole. -/
theorem isWhole (takes : TakesOver taken text) (whole : ∀ source ∈ taken, IsWhole source.toList) :
    IsWhole text.toList := by
  intro c member
  rw [Bool.eq_false_iff]
  intro ends
  obtain ⟨source, held, inside⟩ := takes c member ends
  rw [whole source held c inside] at ends
  cases ends

theorem number (n : Nat) : TakesOver taken (toString n) :=
  of_visible (by rw [Nat.toString_eq_repr, Nat.toList_repr]; exact visible_toDigits n)

theorem integer (n : Int) : TakesOver taken (toString n) := of_visible (visible_toString n)

end TakesOver

/-! ## Quoted texts -/

theorem visible_hex4 (n : Nat) : ∀ c ∈ hex4 n, IsVisible c := fun c member =>
  Json.visible_escapeUnit n c (List.mem_cons_of_mem _ (List.mem_cons_of_mem _ member))

theorem isWhole_quotedChar {quote : Char} (visible : IsVisible quote) (c : Char) : IsWhole (quotedChar quote c) := by
  unfold quotedChar
  split
  · next marked =>
    simp only [Bool.or_eq_true, beq_iff_eq] at marked
    refine isWhole_of_visible ?_
    rw [List.forall_mem_cons, List.forall_mem_singleton]
    rcases marked with rfl | rfl
    · exact ⟨by decide, visible⟩
    · exact ⟨by decide, by decide⟩
  split
  · decide
  split
  · decide
  split
  · decide
  split
  · next printable => exact fun d member => List.mem_singleton.mp member ▸ isLineBoundary_of_printable printable
  have escaped {mark : Char} {digits : List Char} (marked : IsVisible mark) (all : ∀ d ∈ digits, IsVisible d) :
      IsWhole ('\\' :: mark :: digits) := by
    refine isWhole_of_visible ?_
    rw [List.forall_mem_cons, List.forall_mem_cons]
    exact ⟨by decide, marked, all⟩
  split
  · exact escaped (by decide) fun d member =>
      visible_hex4 _ d (List.mem_cons_of_mem _ (List.mem_cons_of_mem _ member))
  split
  · exact escaped (by decide) (visible_hex4 _)
  · refine escaped (by decide) fun d member => ?_
    rcases List.mem_append.mp member with high | low
    · exact visible_hex4 _ d high
    · exact visible_hex4 _ d low

/-- A text in quotes takes up one line, whatever it holds. -/
theorem isWhole_quoted (text : String) : IsWhole (quoted text).toList := by
  have visible : IsVisible (quoteFor text.toList) := by
    unfold quoteFor
    split <;> decide
  rw [quoted, String.toList_ofList]
  intro c member
  rcases List.mem_cons.mp member with rfl | member
  · exact isLineBoundary_of_visible visible
  rcases List.mem_append.mp member with inside | last
  · obtain ⟨d, -, inside⟩ := List.mem_flatMap.mp inside
    exact isWhole_quotedChar visible d c inside
  · exact List.mem_singleton.mp last ▸ isLineBoundary_of_visible visible

theorem TakesOver.quoted {taken : List String} (text : String) : TakesOver taken (Text.quoted text) :=
  of_whole (isWhole_quoted text)

end Text

/-! ## Values -/

open Text (TakesOver)

variable {taken : List String}

theorem Moment.takesOver_arguments (numbers : List Nat) : TakesOver taken (arguments numbers) := by
  refine .joined (.constant rfl rfl) fun text member => ?_
  obtain ⟨n, -, rfl⟩ := List.mem_map.mp member
  exact .number n

theorem Moment.takesOver_shownDistance (ahead : Int) : TakesOver taken (shownDistance ahead) := by
  have days : TakesOver taken (if ahead < 0 then "days=-1, " else "") := by
    split <;> exact .constant rfl rfl
  unfold shownDistance
  split
  · exact .constant rfl rfl
  · have front : TakesOver taken ("datetime.timezone(datetime.timedelta(" ++
        (if ahead < 0 then "days=-1, " else "") ++ "seconds=") :=
      .append (.append (.constant rfl rfl) days) (.constant rfl rfl)
    exact .append (.append front (.integer _)) (.constant rfl rfl)

theorem Moment.takesOver_shown (moment : Moment) : TakesOver taken moment.shown := by
  unfold shown
  split
  · exact (takesOver_arguments _).within (.constant rfl rfl) (.constant rfl rfl)
  · exact (takesOver_arguments _).within (.constant rfl rfl) (.constant rfl rfl)
  · next day time ahead =>
    have zone : TakesOver taken ((ahead.map fun ahead => ", tzinfo=" ++ shownDistance ahead).getD "") := by
      cases ahead with
      | none => exact .constant rfl rfl
      | some ahead => exact .append (.constant rfl rfl) (takesOver_shownDistance ahead)
    exact .append (.append (.append (.constant rfl rfl) (takesOver_arguments _)) zone) (.constant rfl rfl)

mutual

/-- A value as a message shows it takes up one line, whatever texts are in it. -/
theorem Value.takesOver_shown : ∀ value : Value, TakesOver taken value.shown
  | .null => by
    rw [shown]
    exact .constant rfl rfl
  | .boolean true => by
    rw [shown]
    exact .constant rfl rfl
  | .boolean false => by
    rw [shown]
    exact .constant rfl rfl
  | .integer n => by
    rw [shown]
    exact .integer n
  | .real x => by
    rw [shown]
    exact .of_visible x.visible_text
  | .text s => by
    rw [shown]
    exact .quoted s
  | .moment m => by
    rw [shown]
    exact m.takesOver_shown
  | .list items => by
    rw [shown]
    have inside : TakesOver taken (Text.joined ", " (shownItems items)) :=
      .joined (.constant rfl rfl) (takesOver_shownItems items)
    exact inside.within (.constant rfl rfl) (.constant rfl rfl)
  | .table fields => by
    rw [shown]
    have inside : TakesOver taken (Text.joined ", " (shownFields fields)) :=
      .joined (.constant rfl rfl) (takesOver_shownFields fields)
    exact inside.within (.constant rfl rfl) (.constant rfl rfl)

theorem Value.takesOver_shownItems : ∀ items : List Value, ∀ text ∈ shownItems items, TakesOver taken text
  | [] => by simp [shownItems]
  | item :: rest => by
    rw [shownItems, List.forall_mem_cons]
    exact ⟨takesOver_shown item, takesOver_shownItems rest⟩

theorem Value.takesOver_shownFields : ∀ fields : Fields, ∀ text ∈ shownFields fields, TakesOver taken text
  | [] => by simp [shownFields]
  | (name, value) :: rest => by
    rw [shownFields, List.forall_mem_cons]
    refine ⟨.append (.append (.quoted name) (.constant rfl rfl)) (takesOver_shown value), ?_⟩
    exact takesOver_shownFields rest

end

end JavaStubs

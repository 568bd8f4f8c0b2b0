import JavaStubs.Proofs.Journal.Shelf
import JavaStubs.Proofs.Json.Tables
import JavaStubs.Proofs.Json.Visible
import JavaStubs.Proofs.Text.Lines
import JavaStubs.Proofs.Text.Trimming

/-!
The lines of a journal file. A file of notes is read as the lines of them, one by one. A note of an event
whose values are texts is read back from its line, in which the fields stand in the order of their names.
-/
namespace JavaStubs.Journal

open Fields (AreTexts)

/-- An event whose values are texts, each with a name of its own. -/
structure Note.IsPlain (note : Note) : Prop where
  texts : AreTexts note.fields
  distinct : (Fields.names note.fields).Nodup

/-- A value has the fields of an event, and the time of its recording unless the event brings one of its
own. -/
def IsRecordOf (note : Note) (value : Value) : Prop :=
  ∃ kept, value = .table kept ∧ (Fields.names kept).Nodup ∧ ∀ name, Fields.get? kept name =
    (Fields.get? note.fields name).or (if name = "ts" then some (.text note.now.stamp) else none)

/-- The fields that are kept of an event. -/
def Note.kept (note : Note) : Fields := Fields.putAll [("ts", .text note.now.stamp)] note.fields

/-- The value that is read back from the line of a note. -/
def Note.record (note : Note) : Value := .table (Json.sortFields note.kept)

theorem sortFields_perm (fields : Fields) : (Json.sortFields fields).Perm fields :=
  List.mergeSort_perm _ _

theorem sortedFields_texts {fields : Fields} (texts : AreTexts fields) :
    Json.sortedFields fields = fields := by
  induction fields with
  | nil => rfl
  | cons field rest ih =>
    obtain ⟨name, value⟩ := field
    obtain ⟨text, rfl⟩ := texts _ List.mem_cons_self
    rw [Json.sortedFields, ih texts.tail, Json.sorted]
    · nofun
    · nofun

namespace Note.IsPlain

variable {note : Note}

theorem texts_kept (plain : note.IsPlain) : AreTexts note.kept := by
  refine AreTexts.putAll (fun field member => ?_) plain.texts
  obtain rfl := List.mem_singleton.mp member
  exact ⟨_, rfl⟩

theorem distinct_kept (note : Note) : (Fields.names note.kept).Nodup := by
  have single : (Fields.names [("ts", Value.text note.now.stamp)]).Nodup := List.nodup_singleton "ts"
  exact Fields.nodup_putAll single note.fields

theorem isRecordOf (plain : note.IsPlain) : IsRecordOf note note.record := by
  have same := (sortFields_perm note.kept).symm
  have distinct := distinct_kept note
  refine ⟨_, rfl, (same.map Prod.fst).nodup_iff.mp distinct, fun name => ?_⟩
  rw [Fields.get?_perm distinct same, Note.kept, Fields.get?_putAll plain.distinct]
  by_cases stamp : name = "ts"
  · simp [stamp, Fields.get?]
  · have other : (name == "ts") = false := by simpa using stamp
    simp [stamp, other, Fields.get?, List.lookup_cons]

/-- The line of a note: its fields in order, and a line feed. -/
theorem toList_line (plain : note.IsPlain) : note.line.toList = Json.write note.record ++ ['\n'] := by
  have sorted : Json.sorted (Event.stamped note.now note.fields) = note.record := by
    rw [Event.stamped, Json.sorted, ← Note.kept, sortedFields_texts plain.texts_kept, Note.record]
  rw [Note.line, Event.line, String.toList_append, Json.writeSorted, String.toList_ofList, sorted]
  rfl

theorem read_line (plain : note.IsPlain) : Json.read note.line.toList = .ok note.record := by
  have same := (sortFields_perm note.kept).symm
  rw [plain.toList_line]
  exact Json.read_write (plain.texts_kept.perm same) ((same.map Prod.fst).nodup_iff.mp (distinct_kept note))

theorem trim_line (plain : note.IsPlain) : (Text.trim note.line.toList).isEmpty = false := by
  rw [plain.toList_line, Note.record, Json.write, List.cons_append, Text.trim_cons_solid (by decide)]
  rfl

end Note.IsPlain

theorem valuesOf_lines {notes : List Note} (plain : ∀ note ∈ notes, note.IsPlain) :
    valuesOf (notes.map fun note => note.line.toList) = (notes.map Note.record, none) := by
  induction notes with
  | nil => rfl
  | cons note rest ih =>
    have first := plain note List.mem_cons_self
    rw [List.map_cons, valuesOf, first.trim_line, if_neg (by simp), first.read_line]
    dsimp only
    rw [ih fun other member => plain other (List.mem_cons_of_mem note member)]
    rfl

theorem forall₂_record {notes : List Note} (plain : ∀ note ∈ notes, note.IsPlain) :
    List.Forall₂ IsRecordOf notes (notes.map Note.record) := by
  rw [List.forall₂_map_right_iff, List.forall₂_same]
  exact fun note member => (plain note member).isRecordOf

/-- What lines spell that come after others is behind what these spell, unless they have a fault. -/
theorem valuesOf_append (lines others : List (List Char)) : valuesOf (lines ++ others) =
    match valuesOf lines with
    | (values, some fault) => (values, some fault)
    | (values, none) => (values ++ (valuesOf others).1, (valuesOf others).2) := by
  induction lines with
  | nil => rfl
  | cons line lines ih =>
    rw [List.cons_append, valuesOf, valuesOf]
    split
    · exact ih
    · cases read : Json.read line with
      | error fault => rfl
      | ok value =>
        dsimp only
        rw [ih]
        rcases valuesOf lines with ⟨values, _ | fault⟩ <;> rfl

/-- The text in front of the line feed of a note. -/
def Note.text (note : Note) : List Char := (Json.writeSorted (Event.stamped note.now note.fields)).toList

theorem Note.toList_line (note : Note) : note.line.toList = note.text ++ ['\n'] :=
  String.toList_append

/-- A file of notes is read as its lines. -/
theorem eventsIn_notesBytes (notes : List Note) :
    eventsIn (notesBytes notes) = valuesOf (notes.map fun note => note.line.toList) := by
  have text : (String.join (notes.map Note.line)).toList =
      (notes.map Note.text).flatMap (· ++ ['\n']) := by
    rw [String.toList_join, List.flatMap_map, List.flatMap_map]
    exact List.flatMap_congr fun note _ => note.toList_line
  have visible (note : Note) : ∀ c ∈ note.text, IsVisible c := Json.visible_writeSorted _
  have no_return : '\r' ∉ (String.join (notes.map Note.line)).toList := by
    rw [text, List.mem_flatMap]
    rintro ⟨line, member, inside⟩
    obtain ⟨note, -, rfl⟩ := List.mem_map.mp member
    rcases List.mem_append.mp inside with written | last
    · exact absurd (visible note _ written) (by decide)
    · exact absurd last (by decide)
  have undivided : ∀ line ∈ notes.map Note.text, '\n' ∉ line := by
    intro line member inside
    obtain ⟨note, -, rfl⟩ := List.mem_map.mp member
    exact absurd (visible note _ inside) (by decide)
  have lines : linesOf (String.join (notes.map Note.line)).toList =
      notes.map fun note => note.line.toList := by
    rw [linesOf, Text.uniformNewlines_eq_self no_return, text, Text.physicalLines_flatMap undivided,
      List.map_map]
    exact List.map_congr_left fun note _ => note.toList_line.symm
  rw [eventsIn, notesBytes, bytesOf, Utf8.decode_toUTF8]
  dsimp only
  rw [lines]

end JavaStubs.Journal

import Mathlib.Data.List.Induction
import JavaStubs.Introspection.Basic
import JavaStubs.Proofs.Descriptor.Form
import JavaStubs.Proofs.Files.Reading
import JavaStubs.Proofs.Files.Refusals
import JavaStubs.Proofs.Jobs

/-!
Catalogs of documents. Of the types in a catalog the last one of a name is found by it. Documents are read
one after another, and the first one that describes no type ends the reading: mostly in invalid input, but
there are bytes, texts and names of files that end it in a fault of their own.
-/
namespace JavaStubs.Catalog

/-! ## Names in a catalog -/

/-- What a catalog of types answers: the last type of a name, or that there is none. -/
inductive Answers (types : List Interface) (name : String) : Except Fault Interface → Prop where
  | last {before after : List Interface} {type : Interface} (split : types = before ++ type :: after)
      (named : type.canonicalName = name) (newer : ∀ other ∈ after, other.canonicalName ≠ name) :
      Answers types name (.ok type)
  | unknown (none : ∀ type ∈ types, type.canonicalName ≠ name) :
      Answers types name (.error (.input (.unknownType name)))

/-- Types of other names make no difference. -/
theorem Answers.concat {types : List Interface} {name : String} {r : Except Fault Interface}
    (answers : Answers types name r) {type : Interface} (other : type.canonicalName ≠ name) :
    Answers (types ++ [type]) name r := by
  cases answers with
  | last split named newer =>
    refine .last (by rw [split, List.append_assoc, List.cons_append]) named fun type' member => ?_
    rcases List.mem_append.mp member with member | member
    · exact newer type' member
    · exact List.mem_singleton.mp member ▸ other
  | unknown none =>
    refine .unknown fun type' member => ?_
    rcases List.mem_append.mp member with member | member
    · exact none type' member
    · exact List.mem_singleton.mp member ▸ other

theorem ofTypes_concat (types : List Interface) (type : Interface) :
    ofTypes (types ++ [type]) = (ofTypes types).register type := by
  rw [ofTypes, List.foldl_append]
  rfl

theorem get_ofTypes (types : List Interface) (name : String) :
    Answers types name (((ofTypes types).get name).mapError .input) := by
  induction types using List.reverseRecOn with
  | nil => exact .unknown nofun
  | append_singleton types type ih =>
    rw [ofTypes_concat]
    by_cases named : type.canonicalName = name
    · have found : ((ofTypes types).register type).get name = .ok type := by
        simp [get, register, named]
      rw [found]
      exact .last rfl named nofun
    · have passed : ((ofTypes types).register type).get name = (ofTypes types).get name := by
        have differs : (name == type.canonicalName) = false := by simpa using Ne.symm named
        simp [get, register, List.lookup_cons, differs]
      rw [passed]
      exact ih.concat named

theorem introspector_ofTypes (types : List Interface) (name : String) (world : World) :
    Ends ((ofTypes types).introspector name) world fun r after => after = world ∧ Answers types name r := by
  rw [introspector, Ends.ofExcept_iff]
  exact ⟨rfl, get_ofTypes types name⟩

/-! ## Bytes of a document -/

/-- Bytes are a text that spells a value. -/
def Spells (bytes : ByteArray) (value : Value) : Prop :=
  ∃ text, Utf8.readText bytes = .ok text ∧ Json.read text.toList = .ok value

section Bytes

variable {path base : Path} {bytes : ByteArray} {text : String}

theorem read_of_notText {fault : Utf8.Fault} (unread : Utf8.readText bytes = .error fault) :
    Document.read path base bytes = .error (.notText fault) := by
  rw [Document.read, Document.value, unread]
  rfl

theorem value_of_text (reads : Utf8.readText bytes = .ok text) :
    Document.value path bytes = (Json.read text.toList).mapError fun fault =>
      if fault.cause.isBound then .beyond fault.cause else .notJson path text.toList fault := by
  rw [Document.value, reads]
  rfl

theorem read_of_wrong {fault : Json.Fault} (reads : Utf8.readText bytes = .ok text)
    (wrong : Json.read text.toList = .error fault) :
    Document.read path base bytes =
      .error (if fault.cause.isBound then .beyond fault.cause else .notJson path text.toList fault) := by
  rw [Document.read, value_of_text reads, wrong]
  rfl

theorem read_of_spells {value : Value} (spells : Spells bytes value) :
    Document.read path base bytes = (Document.interface (some base) value).mapError .form := by
  obtain ⟨text, reads, parsed⟩ := spells
  rw [Document.read, value_of_text reads, parsed]
  rfl

end Bytes

/-! ## Documents -/

/-- What the file of a document holds and where it lies, as it is opened. -/
def Opens (disk : Disk) (document : String) (location : Location) (bytes : ByteArray) : Prop :=
  ∃ content, (Disk.openFile (Path.ofText document)).run disk = (.ok (location, content), disk) ∧
    content.toBytes = bytes

/-- The document in a file describes a type; relative places in it are in the directory of the file. -/
def Describes (disk : Disk) (document : String) (type : Interface) : Prop :=
  ∃ location bytes value, Opens disk document location bytes ∧ Spells bytes value ∧
    Document.IsType PassesDotted value ∧
    type = Document.describedBy (some (Location.path location.tail)) value

/-- Why the document in a file is invalid input: the operating system refuses to open the file, or the document
is no JSON or has not the form of a descriptor. -/
inductive IsRefused (disk : Disk) (document : String) : InputCause → Prop where
  | unreadable {fault : OsFault}
      (refused : (Disk.openFile (Path.ofText document)).run disk = (.error (.os fault), disk)) :
      IsRefused disk document (.unreadable document fault)
  | notJson {location : Location} {bytes : ByteArray} {text : String} {fault : Json.Fault}
      (opens : Opens disk document location bytes) (reads : Utf8.readText bytes = .ok text)
      (wrong : Json.read text.toList = .error fault) (placed : fault.cause.isBound = false) :
      IsRefused disk document (.faulty document (.notJson (Path.ofText document) text.toList fault))
  | form {location : Location} {bytes : ByteArray} {value : Value}
      (opens : Opens disk document location bytes) (spells : Spells bytes value)
      (other : ¬ Document.IsType PassesDotted value) :
      IsRefused disk document (.faulty document (.form (Document.violations value)))

/-- The faults of their own that reading the document in a file can end in: there is NUL in the name of the
file, its bytes are no text, or the text goes beyond a bound of the reader of JSON. -/
inductive Strays (disk : Disk) (document : String) : Fault → Prop where
  | nul (there : Path.hasNul (Path.ofText document).text = true) : Strays disk document (.file .nulInName)
  | notText {location : Location} {bytes : ByteArray} {fault : Utf8.Fault}
      (opens : Opens disk document location bytes) (unread : Utf8.readText bytes = .error fault) :
      Strays disk document (.document (.notText fault))
  | beyond {location : Location} {bytes : ByteArray} {text : String} {fault : Json.Fault}
      (opens : Opens disk document location bytes) (reads : Utf8.readText bytes = .ok text)
      (wrong : Json.read text.toList = .error fault) (bound : fault.cause.isBound = true) :
      Strays disk document (.document (.beyond fault.cause))

/-- What reading the document in a file comes to. -/
inductive IsRead (disk : Disk) (document : String) : Except Fault Interface → Prop where
  | described {type : Interface} (describes : Describes disk document type) : IsRead disk document (.ok type)
  | refused {cause : InputCause} (refused : IsRefused disk document cause) :
      IsRead disk document (.error (.input cause))
  | strays {fault : Fault} (strays : Strays disk document fault) : IsRead disk document (.error fault)

theorem run_openFile (path : Path) (disk : Disk) :
    ∃ r, (Disk.openFile path).run disk = (r, disk) ∧ ∀ fault, r = .error fault → Disk.IsFaultOf path fault := by
  have reads : Reads (Disk.openFile path) :=
    fun _ => Disk.openFile_ends (fun _ _ _ _ _ => rfl) (fun _ _ _ => rfl) fun _ => rfl
  obtain ⟨r, run⟩ := reads.run disk
  have concerns := Disk.concerns_openFile path disk trivial
  rw [Ends.of_run run] at concerns
  refine ⟨r, run, fun fault same => ?_⟩
  subst same
  exact concerns.2

/-- A document is read as a type, as invalid input or not at all, and the files stay as they are. -/
theorem loadInput_ends (document : String) (world : World) :
    Ends (loadInput document) world fun r after => after = world ∧ IsRead world.disk document r := by
  obtain ⟨r, run, concerns⟩ := run_openFile (Path.ofText document) world.disk
  unfold loadInput load
  rw [Ends.tryCatch_iff, Ends.bind_iff, Ends.onDisk_iff, Ends.of_run run]
  cases r with
  | error fault =>
    cases concerns fault rfl with
    | os refusal => exact ⟨rfl, .refused (.unreadable run)⟩
    | nul there => exact ⟨rfl, .strays (.nul there)⟩
  | ok opened =>
    obtain ⟨location, content⟩ := opened
    have opens : Opens world.disk document location content.toBytes := ⟨content, run, rfl⟩
    rw [mapError_ok, onward_ok]
    dsimp only
    rw [Ends.ofExcept_iff]
    cases reads : Utf8.readText content.toBytes with
    | error fault =>
      rw [read_of_notText reads]
      exact ⟨rfl, .strays (.notText opens reads)⟩
    | ok text =>
      cases parsed : Json.read text.toList with
      | error fault =>
        rw [read_of_wrong reads parsed]
        cases bound : fault.cause.isBound with
        | true => exact ⟨rfl, .strays (.beyond opens reads parsed bound)⟩
        | false => exact ⟨rfl, .refused (.notJson opens reads parsed bound)⟩
      | ok value =>
        have spells : Spells content.toBytes value := ⟨text, reads, parsed⟩
        rw [read_of_spells spells]
        cases answer : Document.interface (some (Location.path location.tail)) value with
        | ok type =>
          have typed := Document.exists_interface_iff.mp ⟨type, answer⟩
          have same := (Document.interface_eq_ok_iff.mp answer).2
          exact ⟨rfl, .described ⟨location, content.toBytes, value, opens, spells, typed, same.symm⟩⟩
        | error found =>
          obtain rfl := Document.found_of_interface answer
          have untyped : ¬ Document.IsType PassesDotted value := by
            have known : (∃ type, Document.interface (some (Location.path location.tail)) value = .ok type) ↔
                Document.IsType PassesDotted value := Document.exists_interface_iff
            rw [← known, answer]
            rintro ⟨type, ⟨⟩⟩
          exact ⟨rfl, .refused (.form opens spells untyped)⟩

/-- Documents are read as far as each of them describes a type. -/
theorem mapM_loadInput_ends (documents : List String) (world : World) :
    Ends (documents.mapM loadInput) world fun r after => after = world ∧
      match r with
      | .ok types => List.Forall₂ (Describes world.disk) documents types
      | .error fault => ∃ before document behind, documents = before ++ document :: behind ∧
          (∀ earlier ∈ before, ∃ type, Describes world.disk earlier type) ∧
          IsRead world.disk document (.error fault) := by
  induction documents with
  | nil => exact ⟨rfl, .nil⟩
  | cons document documents ih =>
    rw [List.mapM_cons, Ends.bind_iff]
    refine (loadInput_ends document world).mono fun r after read => ?_
    obtain ⟨rfl, read⟩ := read
    cases r with
    | error fault => exact ⟨rfl, [], document, documents, rfl, nofun, read⟩
    | ok type =>
      obtain ⟨describes⟩ := read
      rw [onward_ok, Ends.bind_iff]
      refine ih.mono fun r after' others => ?_
      obtain ⟨rfl, others⟩ := others
      cases r with
      | ok types => exact ⟨rfl, .cons describes others⟩
      | error fault =>
        obtain ⟨before, other, behind, rfl, earlier, read⟩ := others
        refine ⟨rfl, document :: before, other, behind, rfl, ?_, read⟩
        exact List.forall_mem_cons.mpr ⟨⟨type, describes⟩, earlier⟩

/-- A catalog of documents answers every name, with the last type of that name or as unknown input. It is made if
each of the documents describes a type; otherwise the first that does not is invalid input, or its file has a
name, bytes or a text that end the reading in a fault of their own. -/
theorem ofFiles_answers (documents : List String) (world : World) :
    Ends (ofFiles documents) world fun r after => after = world ∧
      match r with
      | .ok catalog => ∃ types, List.Forall₂ (Describes world.disk) documents types ∧
          ∀ name later, Ends (catalog.introspector name) later fun answer still =>
            still = later ∧ Answers types name answer
      | .error fault => ∃ before document behind, documents = before ++ document :: behind ∧
          (∀ earlier ∈ before, ∃ type, Describes world.disk earlier type) ∧
          ((∃ cause, IsRefused world.disk document cause ∧ fault = .input cause) ∨
            Strays world.disk document fault) := by
  unfold ofFiles
  rw [Ends.bind_iff]
  refine (mapM_loadInput_ends documents world).mono fun r after read => ?_
  obtain ⟨rfl, read⟩ := read
  cases r with
  | ok types => exact ⟨rfl, types, read, fun name later => introspector_ofTypes types name later⟩
  | error fault =>
    obtain ⟨before, document, behind, split, earlier, read⟩ := read
    refine ⟨rfl, before, document, behind, split, earlier, ?_⟩
    cases read with
    | refused refused => exact .inl ⟨_, refused, rfl⟩
    | strays strays => exact .inr strays

/-- A world with a document that is a single byte, which begins no character. -/
def scrambled : World :=
  .start ⟨FileTree.empty.put ["d.json"] (.file (.raw ⟨#[0xFF]⟩)), [], [], [], 0o022⟩ []
    (.ofText "2024-01-02T03:04:05+00:00") none

/-- The fault of bytes that a job ends in. -/
def undecoded? {α : Type} : Except Fault α → Option Utf8.Fault
  | .error (.document (.notText fault)) => some fault
  | _ => none

theorem eq_of_undecoded? {α : Type} {r : Except Fault α} {fault : Utf8.Fault}
    (found : undecoded? r = some fault) : r = .error (.document (.notText fault)) := by
  unfold undecoded? at found
  split at found
  · rw [Option.some.inj found]
  · cases found

/-- Reading that document ends neither in a catalog nor in invalid input. -/
theorem scrambled_strays :
    Ends (ofFiles ["d.json"]) scrambled fun r _ =>
      r = .error (.document (.notText ⟨0, [0xFF], .badStart⟩)) ∧
        ¬ ((∃ catalog, r = .ok catalog) ∨ ∃ cause, r = .error (.input cause)) := by
  have found : undecoded? ((ofFiles ["d.json"]).run scrambled).1 = some ⟨0, [0xFF], .badStart⟩ := by
    decide +kernel
  have strays : Ends (ofFiles ["d.json"]) scrambled fun r _ =>
      r = .error (.document (.notText ⟨0, [0xFF], .badStart⟩)) := eq_of_undecoded? found
  refine strays.mono fun r _ same => ⟨same, ?_⟩
  subst same
  rintro (⟨catalog, same⟩ | ⟨cause, same⟩)
  · cases same
  · cases same

end JavaStubs.Catalog

import JavaStubs.Proofs.Files.Lexical
import JavaStubs.Proofs.Implementor.Delivering

/-!
Archives that are made again. What an archive holds is decided by the description of the type, the settings
and what the compiler makes of a source file, and by nothing else.
-/
namespace JavaStubs

open JavaStubs.Path (IsName)

namespace Disk

/-- What a path leads to, if anything, lies below a directory, and only these bytes can be read there. -/
def YieldsBelow (disk : Disk) (top : Location) (path : Path) (bytes : ByteArray) : Prop :=
  ∀ found, disk.find .look path = .ok found → top.IsBelow found.location ∧
    ∀ read, disk.Holds path read → read = bytes

end Disk

open Disk (LoneFile YieldsBelow pathBelow)

/-- What a compiler makes of a source file depends on the name and the bytes of that only: when it accepts
the only file in a workspace, the class file that has the extension lies in the workspace, and holds what
is made of the source. -/
def Compiler.Emits (compiler : Compiler) (extension : String)
    (emitted : String → ByteArray → ByteArray) : Prop :=
  ∀ (world : World) (workspace : Path) (others : List Path) (names : List String) (name : String)
    (top : Location) (content : Content),
    world.disk.tree.IsTree → workspace.IsPlain →
    world.disk.find .look workspace = .ok (.entry top .directory) →
    (∀ name ∈ names, IsName name) → IsName name →
    world.disk.LoneFile top ((pathBelow workspace names).child name) content →
    Ends (compiler (workspace :: others) ((pathBelow workspace names).child name)) world fun r after =>
      ∀ outcome, r = .ok outcome → outcome.ok = true →
        after.disk.YieldsBelow top (((pathBelow workspace names).child name).withSuffix extension)
          (emitted name content.toBytes)

namespace Implementor

open Implementation (packageNames)

variable {implementor : Implementor} {settings : Settings} {described : Interface} {workspace place : Path}
  {world : World} {top : Location} {emitted : String → ByteArray → ByteArray}

/-! ## The class file -/

/-- What a compiler makes of the source of a type. -/
def classBytes (emitted : String → ByteArray → ByteArray) (settings : Settings) (described : Interface) :
    ByteArray :=
  emitted (sourceName settings described) (Content.ofText (sourceText settings described)).toBytes

theorem prepare_emits (undivided : implementor.settings.IsUndivided) (filed : Implementation.IsFiled described)
    (emits : implementor.compiler.Emits implementor.settings.classExtension emitted)
    (root : world.disk.tree.IsTree) (plain : workspace.IsPlain)
    (there : world.disk.find .look workspace = .ok (.entry top .directory)) (bare : world.disk.IsBare top) :
    Ends (implementor.prepare described workspace) world fun r compiled => ∀ classFile, r = .ok classFile →
      compiled.disk.YieldsBelow top classFile (classBytes emitted implementor.settings described) := by
  refine (prepare_compiled undivided filed root plain there bare).mono fun r after compiled classFile done => ?_
  obtain ⟨written, tree, there, lone, ⟨outcome, run, accepted⟩, rfl⟩ := compiled classFile done
  have yields := emits written workspace described.codeSource.toList _ _ top _ tree plain there filed.packages
    (isName_sourceName undivided filed) lone
  rw [Ends.of_run run] at yields
  exact yields outcome rfl accepted

/-- What a class file supplies that was prepared beside an archive is what the compiler makes of the
source. -/
theorem preparedBeside_emits (undivided : implementor.settings.IsUndivided)
    (filed : Implementation.IsFiled described) (confined : implementor.compiler.IsConfined)
    (emits : implementor.compiler.Emits implementor.settings.classExtension emitted)
    (root : world.disk.tree.IsTree) (plain : place.IsPlain) (settled : world.disk.IsSettled place) :
    Ends (implementor.preparedBeside described place) world fun r compiled => ∀ classFile location bytes,
      r = .ok classFile → compiled.disk.WritesAt place location →
      Supplies compiled.disk classFile location bytes →
        bytes = classBytes emitted implementor.settings described := by
  refine Workspace.entered_ends root plain undivided.tempPrefix (fun fault after => nofun) ?_
  intro middle name directory ready acquired
  have there := acquired.find plain (fun location _ => .refl ready.disk location)
  have above := plain.parent.child acquired.named
  refine ((prepare_ends undivided filed confined acquired.made.tree above there acquired.isBare.linkFree).and
    (prepare_emits undivided filed emits acquired.made.tree above there acquired.isBare)).mono
    fun r compiled ends classFile location bytes done writes supplies => ?_
  obtain ⟨⟨below, -⟩, yields⟩ := ends
  have outside := Workspace.StaysBelow.writes_outside acquired plain root settled below writes
  obtain ⟨found, reached, -, elsewhere⟩ := supplies
  obtain ⟨inside, read⟩ := yields classFile done found reached
  -- the class file lies in the workspace, and the archive does not
  exact read bytes (elsewhere fun same => outside (same ▸ inside))

/-! ## The whole invocation -/

variable {type archive : String}

theorem prepared_emits (safe : implementor.IsSafe type archive world)
    (emits : implementor.compiler.Emits implementor.settings.classExtension emitted)
    (introspected : Ends (implementor.introspector type) world fun r _ => r = .ok described) :
    Ends (implementor.silent.prepared type (.ofText archive)) world fun r compiled =>
      ∀ classFile location bytes, r = .ok classFile →
        compiled.disk.WritesAt (placeOf world archive) location →
        Supplies compiled.disk classFile location bytes →
          bytes = classBytes emitted implementor.settings described := by
  have describes := @describe_ends implementor.silent world _ type "archive" rfl safe.describes
  obtain ⟨r, ready, run⟩ := Ends.exists_run (implementor.silent.describe "archive" type) world
  rw [Ends.of_run run] at describes
  obtain ⟨same, success⟩ := describes
  unfold prepared
  rw [Ends.bind_iff, Ends.of_run run]
  cases r with
  | error fault => exact nofun
  | ok other =>
    obtain ⟨filed, also⟩ := success other rfl
    obtain ⟨_, _, rfl, done⟩ := (Ends.and introspected also).elim
    obtain rfl := Except.ok.inj done
    have here : Path.absoluteFrom ready.disk.here.path (.ofText archive) = placeOf world archive := by
      rw [same]
      rfl
    rw [onward_ok, absolute_iff, here]
    exact @preparedBeside_emits implementor.silent described _ ready emitted safe.undivided filed
      safe.confined emits (same ▸ safe.root) (safe.isPlain archive) (same ▸ safe.settled)

/-- A path leads to an archive with these entries. -/
def LeadsToArchive (disk : Disk) (path : Path) (entries : List ArchiveEntry) : Prop :=
  ∃ location content, disk.find .look path = .ok (.entry location (.file content)) ∧
    content.entries = .ok entries

/-- The entries of the archive of a type. -/
def archiveEntries (emitted : String → ByteArray → ByteArray) (settings : Settings)
    (described : Interface) : List ArchiveEntry :=
  [.packed (entryName settings described) (classBytes emitted settings described)]

/-- An archive that was produced has the one entry that the description of the type, the settings and the
compiler give. -/
theorem generateArchive_leads (safe : implementor.IsSafe type archive world)
    (emits : implementor.compiler.Emits implementor.settings.classExtension emitted) :
    Ends (implementor.generateArchive type (.ofText archive)) world fun r after => ∀ produced,
      r = .ok produced → ∃ described,
        Ends (implementor.introspector type) world (fun r _ => r = .ok described) ∧
          LeadsToArchive after.disk produced (archiveEntries emitted implementor.settings described) := by
  refine (generateArchive_delivers safe).mono fun r after delivers produced done => ?_
  obtain ⟨rfl, described, location, bytes, introspected, leads, prepares⟩ := delivers produced done
  obtain ⟨_, _, ⟨writes, classFile, done, supplies⟩, same⟩ :=
    (Ends.and prepares (prepared_emits safe emits introspected)).elim
  obtain rfl := same classFile location bytes done writes supplies
  exact ⟨described, introspected, location, _, leads, rfl⟩

/-- Whatever the files, the clock, the names of workspaces and the archives' paths are: two archives of types
that are described alike have the same entries. -/
theorem generateArchive_reproducible (implementor : Implementor)
    (emitted : String → ByteArray → ByteArray) (type type' archive archive' : String)
    (world world' : World) (described : Interface)
    (emits : implementor.compiler.Emits implementor.settings.classExtension emitted)
    (safe : implementor.IsSafe type archive world) (safe' : implementor.IsSafe type' archive' world')
    (describes : Ends (implementor.introspector type) world fun r _ => r = .ok described)
    (describes' : Ends (implementor.introspector type') world' fun r _ => r = .ok described) :
    Ends (implementor.generateArchive type (.ofText archive)) world fun r after =>
      Ends (implementor.generateArchive type' (.ofText archive')) world' fun r' after' =>
        ∀ produced produced', r = .ok produced → r' = .ok produced' →
          LeadsToArchive after.disk produced (archiveEntries emitted implementor.settings described) ∧
          LeadsToArchive after'.disk produced' (archiveEntries emitted implementor.settings described) := by
  refine (generateArchive_leads safe emits).mono fun r after first => ?_
  refine (generateArchive_leads safe' emits).mono fun r' after' second produced produced' done done' => ?_
  obtain ⟨first_described, introspected, leads⟩ := first produced done
  obtain ⟨second_described, introspected', leads'⟩ := second produced' done'
  obtain ⟨_, _, rfl, same⟩ := (introspected.and describes).elim
  obtain ⟨_, _, rfl, same'⟩ := (introspected'.and describes').elim
  obtain rfl := Except.ok.inj same
  obtain rfl := Except.ok.inj same'
  exact ⟨leads, leads'⟩

/-! ### A compiler that echoes the source -/

/-- Bytes that tell what they were made of. -/
def echoed (_ : String) (bytes : ByteArray) : ByteArray := "code of ".toUTF8 ++ bytes

/-- A compiler that puts the bytes of the source file, with something in front, into the class file. -/
def echoing (extension : String) : Compiler := fun _ file => do
  let bytes ← Job.onDisk (Disk.readBytes file)
  let _ ← Job.onDisk (Disk.write (file.withSuffix extension) (.raw (echoed file.name bytes)))
  return ⟨0, "", ""⟩

/-- With a suffix of some length, a name is a name still. -/
theorem withSuffix_child {base : Path} {name extension : String} (is_name : IsName name)
    (undivided : '/' ∉ extension.toList) (long : 2 < extension.toList.length) :
    ∃ other, IsName other ∧ (base.child name).withSuffix extension = base.child other := by
  have other : IsName (Path.stemOf name ++ extension) := by
    have differs {text : String} (short : text.toList.length ≤ 2) : Path.stemOf name ++ extension ≠ text := by
      rintro rfl
      rw [String.toList_append, List.length_append] at short
      omega
    refine ⟨differs (by decide), differs (by decide), differs (by decide), fun member => ?_⟩
    rw [Path.stemOf, String.toList_append, String.toList_ofList, List.mem_append] at member
    rcases member with member | member
    · exact is_name.undivided (List.mem_of_mem_take member)
    · exact undivided member
  exact ⟨_, other, by rw [Path.child_name other, Path.withSuffix_child_eq is_name]⟩

/-- What can be read of a regular file is its content. -/
theorem bytes_of_holds {disk : Disk} {path : Path} {location : Location} {content : Content}
    {bytes : ByteArray} (found : disk.find .look path = .ok (.entry location (.file content)))
    (holds : disk.Holds path bytes) : bytes = content.toBytes := by
  obtain ⟨-, ⟨_, _, also, -, rfl⟩ | ⟨_, device, -⟩⟩ := holds.cases
  · rw [found] at also
    cases also
    rfl
  · rw [found] at device
    cases device

theorem isConfined_echoing {extension : String} (undivided : '/' ∉ extension.toList)
    (long : 2 < extension.toList.length) : (echoing extension).IsConfined := by
  intro world workspace others names top root plain there free some_names named
  obtain ⟨front, last, rfl⟩ := (List.eq_nil_or_concat' names).resolve_left some_names
  have front_named : ∀ name ∈ front, IsName name := fun name member => named name (by simp [member])
  rw [Disk.pathBelow_concat]
  obtain ⟨other, other_named, same⟩ :=
    @withSuffix_child (pathBelow workspace front) last extension (named last (by simp)) undivided long
  unfold echoing
  rw [same, Ends.bind_iff, Ends.onDisk_iff]
  obtain ⟨r, run⟩ := (Disk.reads_readBytes ((pathBelow workspace front).child last)).run world.disk
  rw [Ends.of_run run]
  cases r with
  | error fault => exact ⟨root, .refl world.disk⟩
  | ok bytes =>
    rw [mapError_ok, onward_ok, Ends.bind_iff, Ends.onDisk_iff]
    refine (Disk.write_inside _ root plain (.of_find there) free front_named other_named).mono
      fun r after inside => ?_
    cases r with
    | error fault => exact inside.toStaysBelow
    | ok _ => exact inside.toStaysBelow

theorem emits_echoing {extension : String} (undivided : '/' ∉ extension.toList)
    (long : 2 < extension.toList.length) : (echoing extension).Emits extension echoed := by
  intro world workspace others names name top content root plain there named is_name lone
  obtain ⟨place, source, only⟩ := lone
  have held := Disk.get?_of_find root ((Disk.pathBelow_isPlain plain named).child is_name).absolute source
  have kinds (location : Location) (entry : Entry) (below : top.IsBelow location)
      (here : world.disk.tree.get? location = some entry) : entry = .directory ∨ entry = .file content := by
    by_cases same : location = place
    · rw [same, held] at here
      exact .inr (Option.some.inj here).symm
    · exact .inl (only location entry below same here)
  have free : world.disk.LinkFree top := fun location target below here => by
    rcases kinds location _ below here with same | same <;> cases same
  have no_device (location : Location) (below : top.IsBelow location) :
      world.disk.tree.get? location ≠ some .sink := fun here => by
    rcases kinds location _ below here with same | same <;> cases same
  obtain ⟨other, other_named, same⟩ :=
    @withSuffix_child (pathBelow workspace names) name extension is_name undivided long
  unfold echoing
  rw [same, Ends.bind_iff, Ends.onDisk_iff]
  obtain ⟨r, run⟩ := (Disk.reads_readBytes ((pathBelow workspace names).child name)).run world.disk
  rw [Ends.of_run run]
  cases r with
  | error fault => exact nofun
  | ok bytes =>
    rw [mapError_ok, onward_ok, Ends.bind_iff, Ends.onDisk_iff]
    refine (Disk.write_leads root plain (.of_find there) free no_device named other_named).mono
      fun r after leads => ?_
    cases r with
    | error fault => exact nofun
    | ok location =>
      obtain ⟨inside, -, found⟩ := leads location rfl
      intro outcome _ _ reached also
      obtain rfl := Except.ok.inj (found.symm.trans also)
      refine ⟨inside, fun read holds => ?_⟩
      rw [bytes_of_holds found holds, bytes_of_holds source run]
      rfl

/-- An implementor that knows one interface, with that compiler. -/
def echoingMaker (suffix extension : String) : Implementor :=
  { makingNothing 0 with
    settings := { (makingNothing 0).settings with implSuffix := suffix, classExtension := extension }
    compiler := echoing extension }

theorem isSafe_echoingMaker {archive name : String} {now : Instant} {serial : Nat}
    (place : placeOf site archive = Path.child ⟨.root, ["o"]⟩ name) (is_name : IsName name)
    (regular : ∀ entry, site.disk.tree.get? [name, "o"] = some entry → ∃ content, entry = .file content) :
    (echoingMaker "Impl" ".class").IsSafe "geo.Shape" archive
      { site with now := now, serial := serial } := by
  have careful := careful_makingNothing 0
  have no_link : site.disk.EndsInNoLink (placeOf site archive) := by
    intro location places target link
    obtain rfl := eq_of_places_site place is_name places
    obtain ⟨content, same⟩ := regular _ link
    cases same
  refine ⟨⟨⟨careful.undivided, ?_, isConfined_echoing (by decide) (by decide), careful.root, careful.stands⟩,
    nofun⟩, .inl no_link, no_link.endsInNoDevice (careful.isPlain archive) fun location places sink => ?_⟩
  · have found : (echoingMaker "Impl" ".class").introspector "geo.Shape" = pure shape := rfl
    rw [found, Ends.pure_iff]
    refine ⟨rfl, fun described same => ?_⟩
    cases same
    exact ⟨by decide +kernel, by decide +kernel⟩
  · obtain rfl := eq_of_places_site place is_name places
    obtain ⟨content, same⟩ := regular _ sink
    cases same

/-- An archive that replaces a file, and a new one, made on another day in a workspace of another name. -/
theorem generateArchive_reproducible_shape :
    (echoing ".class").Emits ".class" echoed ∧
    (echoingMaker "Impl" ".class").IsSafe "geo.Shape" "o/j.jar" site ∧
    (echoingMaker "Impl" ".class").IsSafe "geo.Shape" "o/k.jar"
      { site with now := .ofText "2031-05-06T07:08:09+00:00", serial := 41 } ∧
    Ends ((echoingMaker "Impl" ".class").generateArchive "geo.Shape" (.ofText "o/j.jar")) site fun r after =>
      Ends ((echoingMaker "Impl" ".class").generateArchive "geo.Shape" (.ofText "o/k.jar"))
        { site with now := .ofText "2031-05-06T07:08:09+00:00", serial := 41 } fun r' after' =>
        r = .ok (.ofText "/o/j.jar") ∧ r' = .ok (.ofText "/o/k.jar") ∧
        LeadsToArchive after.disk (.ofText "/o/j.jar")
          (archiveEntries echoed (echoingMaker "Impl" ".class").settings shape) ∧
        LeadsToArchive after'.disk (.ofText "/o/k.jar")
          (archiveEntries echoed (echoingMaker "Impl" ".class").settings shape) := by
  have emits := @emits_echoing ".class" (by decide) (by decide)
  have held : site.disk.tree.get? ["j.jar", "o"] = some (.file (.ofText "old")) := by decide +kernel
  have vacant : site.disk.tree.get? ["k.jar", "o"] = none := by decide +kernel
  have safe : (echoingMaker "Impl" ".class").IsSafe "geo.Shape" "o/j.jar" site :=
    @isSafe_echoingMaker "o/j.jar" "j.jar" site.now site.serial (by decide +kernel)
      ⟨by decide, by decide, by decide, by decide⟩ fun entry there => by
        rw [held] at there
        exact ⟨_, (Option.some.inj there).symm⟩
  have safe' : (echoingMaker "Impl" ".class").IsSafe "geo.Shape" "o/k.jar"
      { site with now := .ofText "2031-05-06T07:08:09+00:00", serial := 41 } :=
    @isSafe_echoingMaker "o/k.jar" "k.jar" _ _ (by decide +kernel)
      ⟨by decide, by decide, by decide, by decide⟩ fun entry there => by
        rw [vacant] at there
        cases there
  refine ⟨emits, safe, safe', ?_⟩
  have alike := generateArchive_reproducible (echoingMaker "Impl" ".class") echoed "geo.Shape" "geo.Shape"
    "o/j.jar" "o/k.jar" site _ shape emits safe safe' rfl rfl
  have ends : Ends ((echoingMaker "Impl" ".class").generateArchive "geo.Shape" (.ofText "o/j.jar")) site
      fun r _ => r.toOption = some (.ofText "/o/j.jar") := by
    unfold Ends
    decide +kernel
  have ends' : Ends ((echoingMaker "Impl" ".class").generateArchive "geo.Shape" (.ofText "o/k.jar"))
      { site with now := .ofText "2031-05-06T07:08:09+00:00", serial := 41 }
      fun r _ => r.toOption = some (.ofText "/o/k.jar") := by
    unfold Ends
    decide +kernel
  refine (ends.and alike).mono fun r after both => (ends'.and both.2).mono fun r' after' both' => ?_
  have done := eq_ok_of_toOption both.1
  have done' := eq_ok_of_toOption both'.1
  exact ⟨done, done', both'.2 _ _ done done'⟩

/-- With a suffix that leads out of the workspace, a class file can be the archive, which is emptied before
the class file is read; and a device that keeps nothing holds no archive. -/
theorem entries_lost_divided :
    ((echoing ".jar").Emits ".jar" echoed ∧ Implementation.IsNamed shape ∧
      Ends ((echoingMaker "/../../../j" ".jar").generateArchive "geo.Shape" (.ofText "o/k.jar")) site
        (fun r after => r.toOption = some (.ofText "/o/k.jar") ∧
          after.disk.tree.get? ["k.jar", "o"] = some (.file (.archive [.packed "geo/Shape/../../../j.jar"
            (classBytes echoed (echoingMaker "/../../../j" ".jar").settings shape)]))) ∧
      Ends ((echoingMaker "/../../../j" ".jar").generateArchive "geo.Shape" (.ofText "o/j.jar")) site
        fun r after => r.toOption = some (.ofText "/o/j.jar") ∧
          after.disk.tree.get? ["j.jar", "o"] =
            some (.file (.archive [.packed "geo/Shape/../../../j.jar" .empty]))) ∧
    Ends ((echoingMaker "Impl" ".class").generateArchive "geo.Shape" (.ofText "o/null")) site fun r after =>
      r.toOption = some (.ofText "/o/null") ∧ after.disk.tree.get? ["null", "o"] = some .sink := by
  refine ⟨⟨emits_echoing (by decide) (by decide), ⟨by decide +kernel, by decide +kernel⟩, ?_, ?_⟩, ?_⟩
  · unfold Ends
    decide +kernel
  · unfold Ends
    decide +kernel
  · unfold Ends
    decide +kernel

end Implementor
end JavaStubs

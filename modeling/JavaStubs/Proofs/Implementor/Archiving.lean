import JavaStubs.Introspection.Basic
import JavaStubs.Proofs.Implementor.Packaging
import JavaStubs.Proofs.Implementor.Preparing
import JavaStubs.Proofs.Workspace.Within

/-!
What is left when an archive was asked for. Nothing but the archive is different, and new directories
above it; and if there is an archive, it has one entry, with the bytes of the class file.
-/
namespace JavaStubs.Implementor

open Disk (Undisturbed StaysBelow)
open Workspace (Acquired Worked)

variable {implementor : Implementor} {type : Interface} {archive : Path} {world : World}

/-- The bytes that are packaged of a class file on a disk. When the archive has been emptied, there is
nothing left of a class file that is the archive itself. -/
def Supplies (disk : Disk) (classFile : Path) (location : Location) (bytes : ByteArray) : Prop :=
  ∃ found, disk.find .look classFile = .ok found ∧
    (found.location = location → bytes = .empty) ∧
    (found.location ≠ location → disk.Holds classFile bytes)

/-- At a location there is an archive with a single entry, unless a device is there. -/
def HoldsEntry (disk : Disk) (location : Location) (name : String) (bytes : ByteArray) : Prop :=
  disk.tree.get? location = some .sink ∨ ∃ content entry,
    disk.tree.get? location = some (.file content) ∧ content.entries = .ok [entry] ∧
      entry.name = name ∧ entry.data = bytes

/-- The class file of a type, prepared in a workspace beside an archive. -/
def preparedBeside (implementor : Implementor) (type : Interface) (archive : Path) : Job Path :=
  Workspace.entered archive implementor.settings.tempPrefix (implementor.prepare type)

/-- What remains of the workspace when an archive has been built, and why. -/
def remainsBeside (implementor : Implementor) (type : Interface) (archive : Path) :
    Job (List CleanupIssue) :=
  Workspace.remains archive implementor.settings.tempPrefix fun workspace =>
    implementor.prepare type workspace >>= fun classFile =>
      package (entryName implementor.settings type) classFile archive

/-- The class file of a type is what the compiler has made of the source, in a workspace beside an archive. -/
def CompiledBeside (implementor : Implementor) (type : Interface) (archive classFile : Path) (after : World) :
    Prop :=
  ∃ workspace top written, workspace.parent = archive.parent ∧
    implementor.Compiles type workspace top written classFile after

/-- An archive with one entry, which has the bytes of the class file that a job prepares: the one that the compiler
has made of the source. -/
structure Archived (implementor : Implementor) (type : Interface) (archive : Path) (prepare : Job Path)
    (world : World) (location : Location) (bytes : ByteArray) (after : Disk) : Prop where
  places : after.Places archive location
  entry : HoldsEntry after location (entryName implementor.settings type) bytes
  source : Ends prepare world fun r compiled => ∃ classFile, r = .ok classFile ∧
    implementor.CompiledBeside type archive classFile compiled ∧ Supplies compiled.disk classFile location bytes

theorem Packaged.holdsEntry {entry : String} {classFile : Path} {location : Location}
    {before after opened : Disk} {bytes : ByteArray}
    (packaged : Packaged entry classFile archive location before after opened bytes) :
    HoldsEntry after location (ArchiveEntry.packed entry bytes).name bytes := by
  rcases packaged.filled.is with file | ⟨-, sink⟩
  · exact .inr ⟨_, _, file, rfl, rfl, rfl⟩
  · exact .inl sink

/-- An archive that was packaged once a class file had been prepared in a workspace that was ready, in
another place than that of the workspace. -/
structure Stocked (implementor : Implementor) (type : Interface) (archive : Path) (world : World)
    (top : Location) (ready : Disk) (location : Location) (bytes : ByteArray) (worked : Disk) : Prop where
  outside : ¬ top <:+ location
  made : ∃ compiled opened classFile, StaysBelow top ready compiled ∧
    Packaged (entryName implementor.settings type) classFile archive location compiled worked opened bytes ∧
    Supplies compiled classFile location bytes ∧
    Ends (implementor.preparedBeside type archive) world fun r later =>
      r = .ok classFile ∧ later.disk = compiled ∧ implementor.CompiledBeside type archive classFile later

section Stages
variable {middle : Disk} {name : String} {directory : Location} {ready : World}
  (undivided : implementor.settings.IsUndivided) (filed : Implementation.IsFiled type)
  (confined : implementor.compiler.IsConfined) (root : world.disk.tree.IsTree) (plain : archive.IsPlain)
  (acquired : Acquired archive world.disk middle name directory ready.disk)

include undivided filed confined plain acquired

theorem prepare_acquired :
    Ends (implementor.prepare type (archive.parent.child name)) ready fun r compiled =>
      StaysBelow (name :: directory) ready.disk compiled.disk ∧ ∀ classFile, r = .ok classFile →
        classFile.isAbsolute = true ∧ implementor.CompiledBeside type archive classFile compiled := by
  have above := plain.parent.child acquired.named
  have there := acquired.find plain fun location _ => .refl ready.disk location
  have prepared := prepare_ends undivided filed confined acquired.made.tree above there acquired.isBare.linkFree
  have compiled := prepare_compiled undivided filed acquired.made.tree above there acquired.isBare
  refine (prepared.and compiled).mono fun r after ends => ⟨ends.1.1, fun classFile done => ?_⟩
  obtain ⟨written, compiles⟩ := ends.2 classFile done
  exact ⟨ends.1.2 classFile done, archive.parent.child name, name :: directory, written,
    Path.parent_child acquired.named, compiles⟩

include root

/-- The stages in a workspace change what lies in it, and after that the archive. -/
theorem stages_work (no_link : world.disk.EndsInNoLink archive) :
    Ends (implementor.prepare type (archive.parent.child name) >>= fun classFile =>
        package (entryName implementor.settings type) classFile archive) ready fun _ worked =>
      Worked archive (name :: directory) ready.disk worked.disk := by
  rw [Ends.bind_iff]
  refine (prepare_acquired undivided filed confined plain acquired).mono fun r compiled ends => ?_
  obtain ⟨below, -⟩ := ends
  cases r with
  | error fault => exact ⟨compiled.disk, below, .inl rfl⟩
  | ok classFile =>
    have still_no_link := Workspace.StaysBelow.endsInNoLink acquired plain root no_link below
    rw [onward_ok]
    exact (package_ends below.tree plain still_no_link).mono fun _ worked ends => ⟨compiled.disk, below, ends.2⟩

/-- If the stages in a workspace succeed, the archive has been packaged. -/
theorem stages_stock (settled : world.disk.IsSettled archive)
    (from_ready : ∀ post, Ends (implementor.preparedBeside type archive) world post ↔
      Ends (implementor.prepare type (archive.parent.child name)) ready post) :
    Ends (implementor.prepare type (archive.parent.child name) >>= fun classFile =>
        package (entryName implementor.settings type) classFile archive) ready fun r worked =>
      r = .ok () → ∃ location bytes, implementor.Stocked type archive world (name :: directory) ready.disk
        location bytes worked.disk := by
  have prepared := prepare_acquired undivided filed confined plain acquired
  obtain ⟨r, compiled, run⟩ :=
    Ends.exists_run (implementor.prepare type (archive.parent.child name)) ready
  rw [Ends.of_run run] at prepared
  rw [Ends.bind_iff, Ends.of_run run]
  obtain ⟨below, success⟩ := prepared
  cases r with
  | error fault => exact nofun
  | ok classFile =>
    obtain ⟨absolute, source⟩ := success classFile rfl
    have named := Workspace.StaysBelow.endsInName acquired plain root settled below
    rw [onward_ok]
    refine (package_fills below.tree plain named).mono fun r worked fills success => ?_
    obtain ⟨location, opened, bytes, packaged⟩ := fills success
    have outside := Workspace.StaysBelow.written_outside acquired plain root settled below packaged.writes
      packaged.filled
    refine ⟨location, bytes, outside, compiled.disk, opened, classFile, below, packaged, ?_, ?_⟩
    · exact packaged.emptied.holds absolute packaged.held
    · rw [from_ready, Ends.of_run run]
      exact ⟨rfl, rfl, source⟩

end Stages

/-- However it ends, making an archive disturbs nothing, if nothing remains of its workspace. -/
theorem buildArchive_ends (named : implementor.settings.IsNamed)
    (type_named : Implementation.IsNamed type) (confined : implementor.compiler.IsConfined)
    (root : world.disk.tree.IsTree) (plain : archive.IsPlain)
    (no_link : world.disk.EndsInNoLink archive)
    (cleared : Ends (implementor.remainsBeside type archive) world fun r _ =>
      ∀ issues, r = .ok issues → issues = []) :
    Ends (implementor.buildArchive type archive) world fun r after =>
      Undisturbed archive world.disk after.disk ∧
        (r = .ok () → ∃ location bytes, implementor.Archived type archive
          (implementor.preparedBeside type archive) world location bytes after.disk) := by
  rw [buildArchive_eq]
  refine Workspace.within_ends root plain named.tempPrefix.undivided cleared
    (fun fault after undisturbed => ⟨undisturbed, nofun⟩) ?_
  intro middle name directory ready acquired from_ready
  have worked := stages_work named.isUndivided type_named.isFiled confined root plain acquired no_link
  have stocked := stages_stock named.isUndivided type_named.isFiled confined root plain acquired (.inl no_link)
    fun post => from_ready _ post
  refine (worked.and stocked).mono fun r worked ends => ?_
  obtain ⟨work, stocked⟩ := ends
  refine ⟨work, fun after released undisturbed => ⟨undisturbed, fun success => ?_⟩⟩
  obtain ⟨location, bytes, outside, compiled, opened, classFile, below, packaged, supplies, prepared⟩ :=
    stocked success
  have still_no_link := Workspace.StaysBelow.endsInNoLink acquired plain root no_link below
  have places := packaged.filled.places plain still_no_link packaged.writes
  obtain rfl := acquired.place_eq plain (Workspace.StaysBelow.keepsRoutes acquired below) places
  refine ⟨archive.name :: directory, bytes, released.places acquired plain (work.keepsRoutes acquired), ?_, ?_⟩
  · unfold HoldsEntry
    rw [(released.same _ outside).1, ← name_packed_entryName named type_named bytes]
    exact packaged.holdsEntry
  · refine prepared.mono fun r later ends => ?_
    obtain ⟨rfl, rfl, source⟩ := ends
    exact ⟨classFile, rfl, source, supplies⟩

/-! ## The whole invocation -/

/-- The class file of a type that is asked for by its name. -/
def prepared (implementor : Implementor) (type : String) (archive : Path) : Job Path := do
  let described ← implementor.describe "archive" type
  let archive ← Workspace.absolute archive
  implementor.preparedBeside described archive

/-- What remains of the workspace when an archive was asked for, and why. -/
def remains (implementor : Implementor) (type : String) (archive : Path) :
    Job (List CleanupIssue) := do
  let described ← implementor.describe "archive" type
  let archive ← Workspace.absolute archive
  implementor.remainsBeside described archive

/-- Without a journal, nothing is noted. -/
theorem note_of_none (silent : implementor.journal = none) (operation type outcome : String)
    (details : List (String × String)) :
    implementor.note operation type outcome details = pure () := by
  unfold note
  rw [silent]

/-- A description that is found leaves the disk as it was, and is of a type of a kind. -/
def Describes (kind : Interface → Prop) (introspector : Introspector) (type : String) (world : World)
    (r : Except Fault Interface) (after : World) : Prop :=
  after.disk = world.disk ∧ ∀ described, r = .ok described → kind described ∧
    Ends (introspector type) world fun r _ => r = .ok described

theorem implementable_ends {kind : Interface → Prop} {introspector : Introspector} {type : String}
    (describes : Ends (introspector type) world fun r after => after.disk = world.disk ∧
      ∀ described, r = .ok described → kind described) :
    Ends (Introspection.implementable introspector type) world
      (Describes kind introspector type world) := by
  obtain ⟨r, after, run⟩ := Ends.exists_run (introspector type) world
  rw [Ends.of_run run] at describes
  obtain ⟨same, named⟩ := describes
  unfold Introspection.implementable
  rw [Ends.bind_iff, Ends.of_run run]
  cases r with
  | error fault => exact ⟨same, nofun⟩
  | ok described =>
    rw [onward_ok, Ends.ofExcept_iff]
    unfold Introspection.requireImplementable
    split
    · exact ⟨same, nofun⟩
    · split
      · exact ⟨same, nofun⟩
      · refine ⟨same, fun other done => ?_⟩
        cases done
        exact ⟨named described rfl, (Ends.of_run run).mpr rfl⟩

theorem describe_ends {kind : Interface → Prop} {type : String} (operation : String)
    (silent : implementor.journal = none)
    (describes : Ends (implementor.introspector type) world fun r after => after.disk = world.disk ∧
      ∀ described, r = .ok described → kind described) :
    Ends (implementor.describe operation type) world
      (Describes kind implementor.introspector type world) := by
  unfold describe
  rw [Ends.tryCatch_iff]
  refine (implementable_ends describes).mono fun r after ends => ?_
  cases r with
  | ok described => exact ends
  | error fault =>
    rw [caught_error]
    split
    · unfold noteFailure
      rw [note_of_none silent, Ends.bind_iff, Ends.pure_iff, onward_ok, Ends.throw_iff]
      exact ⟨ends.1, nofun⟩
    · exact ⟨ends.1, nofun⟩

/-- Where an archive that a text names lies, seen from the root. -/
def placeOf (world : World) (archive : String) : Path :=
  Path.absoluteFrom world.disk.here.path (.ofText archive)

/-- All keep to their part when an archive is asked for: there is no journal, the names are proper, the
introspector leaves the disk alone and the compiler all but the workspace, no link lies at the archive's
path, and all of the workspace can be cleared away. -/
structure IsOrderly (implementor : Implementor) (type archive : String) (world : World) : Prop where
  silent : implementor.journal = none
  named : implementor.settings.IsNamed
  describes : Ends (implementor.introspector type) world fun r after => after.disk = world.disk ∧
    ∀ described, r = .ok described → Implementation.IsNamed described
  confined : implementor.compiler.IsConfined
  root : world.disk.tree.IsTree
  stands : world.disk.tree.get? world.disk.here = some .directory
  no_link : world.disk.EndsInNoLink (placeOf world archive)
  cleared : Ends (implementor.remains type (.ofText archive)) world fun r _ =>
    ∀ issues, r = .ok issues → issues = []

/-- Asking for an archive disturbs nothing but that, however it ends; and an archive that was made has
one entry, with the bytes of the class file. -/
theorem generateArchive_undisturbed (implementor : Implementor) (type archive : String) (world : World)
    (orderly : implementor.IsOrderly type archive world) :
    Ends (implementor.generateArchive type (.ofText archive)) world fun r after =>
      Undisturbed (placeOf world archive) world.disk after.disk ∧
        ∀ produced, r = .ok produced → produced = placeOf world archive ∧
          ∃ described location bytes,
            Ends (implementor.introspector type) world (fun r _ => r = .ok described) ∧
            implementor.Archived described (placeOf world archive)
              (implementor.prepared type (.ofText archive)) world location bytes after.disk := by
  obtain ⟨silent, named, describes, confined, root, stands, no_link, cleared⟩ := orderly
  have plain : (placeOf world archive).IsPlain :=
    Path.isPlain_absolute (root.isPlain_path (by simp [stands])) archive
  have described := describe_ends "archive" silent describes
  obtain ⟨r, ready, run⟩ := Ends.exists_run (implementor.describe "archive" type) world
  rw [Ends.of_run run] at described
  obtain ⟨same, success⟩ := described
  unfold remains at cleared
  unfold generateArchive
  rw [Ends.bind_iff, Ends.of_run run] at cleared ⊢
  have undisturbed : Undisturbed (placeOf world archive) world.disk ready.disk := fun location =>
    .inl (same ▸ .refl world.disk location)
  cases r with
  | error fault => exact ⟨undisturbed, nofun⟩
  | ok described =>
    obtain ⟨type_named, introspected⟩ := success described rfl
    have absolute {β : Type} (job : Path → Job β) (post : Except Fault β → World → Prop) :
        Ends (Workspace.absolute (.ofText archive) >>= job) ready post ↔
          Ends (job (placeOf world archive)) ready post := by
      unfold Workspace.absolute
      rw [Ends.bind_iff, Ends.bind_iff, Ends.get_iff, onward_ok, Ends.pure_iff, onward_ok, same]
      rfl
    rw [onward_ok, absolute] at cleared ⊢
    have built := buildArchive_ends named type_named confined (same ▸ root) plain (same ▸ no_link)
      cleared
    rw [Ends.bind_iff, Ends.attempt_iff]
    refine built.mono fun r after ends => ?_
    obtain ⟨undisturbed, archived⟩ := ends
    rw [same] at undisturbed
    rw [onward_ok]
    cases r with
    | error fault =>
      split
      · next done => cases done
      · unfold noteFailure
        rw [note_of_none silent, Ends.bind_iff, Ends.pure_iff, onward_ok, Ends.throw_iff]
        exact ⟨undisturbed, nofun⟩
      · exact ⟨undisturbed, nofun⟩
    | ok _ =>
      rw [Ends.bind_iff, note_of_none silent, Ends.pure_iff, onward_ok, Ends.pure_iff]
      refine ⟨undisturbed, fun produced done => ⟨(Except.ok.inj done).symm, described, ?_⟩⟩
      obtain ⟨location, bytes, places, entry, source⟩ := archived rfl
      refine ⟨location, bytes, introspected, places, entry, ?_⟩
      unfold prepared
      rw [Ends.bind_iff, Ends.of_run run, onward_ok, absolute]
      exact source

/-! ### A compiler that puts something in the place of a class file -/

/-- A compiler that puts something in the place of a class file if nothing is there. -/
def placing (entry : Entry) : Compiler := fun _ file => do
  Job.onDisk do
    match (← get).find .entry (file.parent.child "ShapeImpl.class") with
    | .ok (.vacant location) => Disk.put location entry
    | _ => return
  return ⟨0, "", ""⟩

private theorem confined_placing (entry : Entry) : (placing entry).IsConfined := by
  intro world workspace others names top root plain there free some_names named
  obtain ⟨front, last, rfl⟩ := (List.eq_nil_or_concat' names).resolve_left some_names
  have front_named : ∀ name ∈ front, Path.IsName name := fun name member => named name (by simp [member])
  have is_name : Path.IsName "ShapeImpl.class" := ⟨by decide, by decide, by decide, by decide⟩
  unfold placing
  rw [Disk.pathBelow_concat, Path.parent_child (named last (by simp)), Ends.bind_iff, Ends.onDisk_iff,
    Ends.bind_iff, Ends.get_iff, onward_ok]
  split
  · next location vacant =>
    obtain ⟨directory, leads, rfl, none_there, -, -⟩ := Disk.vacant_of_find_child is_name vacant
    have absolute := (Disk.pathBelow_isPlain plain front_named).absolute
    refine ⟨root.put (leads.isDirectory root absolute) is_name (by decide)
      (.inr (by simp [none_there])), (Disk.withEntry_sameBut entry).mono ?_⟩
    rintro _ rfl
    rw [leads.below (.of_find there) free front_named]
    exact @Disk.isBelow_append ("ShapeImpl.class" :: front.reverse) (by simp) top
  · exact ⟨root, .refl world.disk⟩

def shape : Interface := .describe "geo" "Shape" "" [] true false none

/-- The implementor of that interface, with such a compiler. -/
def shapeMaker (entry : Entry) : Implementor where
  settings := ⟨"Impl", "   ", ".java", ".class", "tmp", "javac", [], "javap", false, .ofText "journal"⟩
  introspector := Catalog.introspector (.ofTypes [shape])
  compiler := placing entry
  journal := none

/-- A directory with a file and a device. -/
def site : World :=
  .start ⟨((FileTree.empty.put ["o"] .directory).put ["j.jar", "o"] (.file (.ofText "old"))).put
    ["null", "o"] .sink, [], [], [], 0o022⟩ [] (.ofText "2024-01-02T03:04:05+00:00") none

theorem root_site : site.disk.tree.IsTree := by
  have empty : FileTree.empty.IsTree := fun name directory there => absurd rfl there
  have named {name : String} (check : name = "o" ∨ name = "j.jar" ∨ name = "null") :
      Path.IsName name := by
    rcases check with rfl | rfl | rfl <;> exact ⟨by decide, by decide, by decide, by decide⟩
  refine FileTree.IsTree.put (.put (.put empty rfl ?_ ?_ ?_) ?_ ?_ ?_ ?_) ?_ ?_ ?_ ?_
  all_goals first
    | exact named (by simp)
    | decide +kernel

theorem eq_of_places_site {archive name : String} {location : Location}
    (place : placeOf site archive = Path.child ⟨.root, ["o"]⟩ name) (is_name : Path.IsName name)
    (places : site.disk.Places (placeOf site archive) location) : location = [name, "o"] := by
  have leads : site.disk.LeadsInto ⟨.root, ["o"]⟩ ["o"] := by
    unfold Disk.LeadsInto
    decide +kernel
  rw [place] at places
  obtain ⟨directory, also, rfl⟩ := (Disk.places_child is_name).mp places
  rw [also.unique leads]

theorem orderly_site {entry : Entry} {archive name : String}
    (place : placeOf site archive = Path.child ⟨.root, ["o"]⟩ name) (is_name : Path.IsName name)
    (no_link : ∀ target, site.disk.tree.get? [name, "o"] ≠ some (.link target))
    (cleared : (((shapeMaker entry).remains "geo.Shape" (.ofText archive)).run site).1.toOption = some []) :
    (shapeMaker entry).IsOrderly "geo.Shape" archive site where
  silent := rfl
  named := ⟨(by decide : Path.IsPart "Impl"), (by decide : Path.IsPart ".java"),
    (by decide : Path.IsPart ".class"), (by decide : Path.IsPart "tmp")⟩
  describes := by
    have found : (shapeMaker entry).introspector "geo.Shape" = pure shape := rfl
    rw [found, Ends.pure_iff]
    refine ⟨rfl, fun described same => ?_⟩
    cases same
    exact ⟨by decide +kernel, by decide +kernel⟩
  confined := confined_placing entry
  root := root_site
  stands := rfl
  no_link := by
    intro location places
    rw [eq_of_places_site place is_name places]
    exact no_link
  cleared := by
    unfold Ends
    cases issues : (((shapeMaker entry).remains "geo.Shape" (.ofText archive)).run site).1 with
    | error fault => nofun
    | ok left =>
      rw [issues] at cleared
      intro other same
      cases same
      exact Option.some.inj cleared

theorem orderly_archive {entry : Entry}
    (cleared : (((shapeMaker entry).remains "geo.Shape" (.ofText "o/j.jar")).run site).1.toOption =
      some []) : (shapeMaker entry).IsOrderly "geo.Shape" "o/j.jar" site := by
  have held : site.disk.tree.get? ["j.jar", "o"] = some (.file (.ofText "old")) := by decide +kernel
  have named : Path.IsName "j.jar" := ⟨by decide, by decide, by decide, by decide⟩
  exact orderly_site (by decide +kernel) named (by simp [held]) cleared

theorem generateArchive_undisturbed_shape :
    (shapeMaker (.file (.ofText "code"))).IsOrderly "geo.Shape" "o/j.jar" site ∧
    (((shapeMaker (.file (.ofText "code"))).generateArchive "geo.Shape" (.ofText "o/j.jar")).run
      site).1.toOption = some (.ofText "/o/j.jar") ∧
    Ends ((shapeMaker (.file (.ofText "code"))).generateArchive "geo.Shape" (.ofText "o/j.jar")) site
      fun r after => Undisturbed (placeOf site "o/j.jar") site.disk after.disk ∧
        ∀ produced, r = .ok produced → produced = placeOf site "o/j.jar" ∧
          ∃ described location bytes,
            Ends ((shapeMaker (.file (.ofText "code"))).introspector "geo.Shape") site
              (fun r _ => r = .ok described) ∧
            (shapeMaker (.file (.ofText "code"))).Archived described (placeOf site "o/j.jar")
              ((shapeMaker (.file (.ofText "code"))).prepared "geo.Shape" (.ofText "o/j.jar")) site
              location bytes after.disk := by
  have orderly := @orderly_archive (.file (.ofText "code")) (by decide +kernel)
  exact ⟨orderly, by decide +kernel, generateArchive_undisturbed _ "geo.Shape" "o/j.jar" site orderly⟩

/-- A class file that is a link to the archive held what that did when it was compiled, and the archive
is emptied before it is read; and a device that keeps nothing holds no archive. -/
theorem entry_lost_link :
    ((shapeMaker (.link "/o/j.jar")).IsOrderly "geo.Shape" "o/j.jar" site ∧
      Ends ((shapeMaker (.link "/o/j.jar")).prepared "geo.Shape" (.ofText "o/j.jar") >>= fun classFile =>
        Job.onDisk (Disk.readBytes classFile)) site (fun r _ => r.toOption = some "old".toUTF8) ∧
      Ends ((shapeMaker (.link "/o/j.jar")).generateArchive "geo.Shape" (.ofText "o/j.jar")) site
        fun r after => r.toOption = some (.ofText "/o/j.jar") ∧
          after.disk.tree.get? ["j.jar", "o"] =
            some (.file (.archive [.packed "geo/ShapeImpl.class" .empty]))) ∧
    (shapeMaker (.file (.ofText "code"))).IsOrderly "geo.Shape" "o/null" site ∧
      Ends ((shapeMaker (.file (.ofText "code"))).generateArchive "geo.Shape" (.ofText "o/null")) site
        fun r after => r.toOption = some (.ofText "/o/null") ∧
          after.disk.tree.get? ["null", "o"] = some .sink := by
  have held : site.disk.tree.get? ["null", "o"] = some .sink := by decide +kernel
  have named : Path.IsName "null" := ⟨by decide, by decide, by decide, by decide⟩
  refine ⟨⟨orderly_archive (by decide +kernel), ?_, ?_⟩, ?_, ?_⟩
  · unfold Ends
    decide +kernel
  · unfold Ends
    decide +kernel
  · exact orderly_site (by decide +kernel) named (by simp [held]) (by decide +kernel)
  · unfold Ends
    decide +kernel

end JavaStubs.Implementor

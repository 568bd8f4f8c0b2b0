import Mathlib.Data.List.TakeWhile
import JavaStubs.Proofs.Workspace.Inside
import JavaStubs.Implementor

/-!
The class file of a type in a workspace. If all that names are made of can be in the name of a file,
the source lies below the workspace, and only what lies there changes until the compiler has ended.
-/
namespace JavaStubs

open JavaStubs.Path (IsName)
open Disk (Inside StaysBelow LinkFree IsBare LoneFile pathBelow)
open FileTree (IsTree)

/-! ## Names -/

/-- What can be part of the names of files and entries as it is. -/
structure Path.IsPart (text : String) : Prop where
  undivided : '/' ∉ text.toList
  no_backslash : '\\' ∉ text.toList
  no_nul : '\x00' ∉ text.toList

instance (text : String) : Decidable (Path.IsPart text) :=
  decidable_of_iff ('/' ∉ text.toList ∧ '\\' ∉ text.toList ∧ '\x00' ∉ text.toList)
    ⟨fun ⟨a, b, c⟩ => ⟨a, b, c⟩, fun ⟨a, b, c⟩ => ⟨a, b, c⟩⟩

theorem Path.IsPart.append {text other : String} (part : IsPart text) (also : IsPart other) :
    IsPart (text ++ other) := by
  refine ⟨?_, ?_, ?_⟩
  · simp [part.undivided, also.undivided]
  · simp [part.no_backslash, also.no_backslash]
  · simp [part.no_nul, also.no_nul]

/-- A part of names that is a name by itself. -/
structure Path.IsComponent (name : String) : Prop where
  part : IsPart name
  nonempty : name ≠ ""
  not_dot : name ≠ "."
  not_dots : name ≠ ".."

instance (name : String) : Decidable (Path.IsComponent name) :=
  decidable_of_iff (Path.IsPart name ∧ name ≠ "" ∧ name ≠ "." ∧ name ≠ "..")
    ⟨fun ⟨a, b, c, d⟩ => ⟨a, b, c, d⟩, fun ⟨a, b, c, d⟩ => ⟨a, b, c, d⟩⟩

theorem Path.IsComponent.isName {name : String} (component : IsComponent name) : IsName name :=
  ⟨component.nonempty, component.not_dot, component.not_dots, component.part.undivided⟩

/-- Behind a name there may be anything that can be part of names. -/
theorem Path.IsComponent.append {name more : String} (component : IsComponent name)
    (part : IsPart more) : IsComponent (name ++ more) := by
  have is_name := component.isName.append part.undivided
  exact ⟨component.part.append part, is_name.nonempty, is_name.not_dot, is_name.not_dots⟩

/-! ## The names of a class -/

namespace Implementation

/-- The names of the packages that a type lies in, the outermost first. -/
def packageNames (type : Interface) : List String :=
  if type.package.isEmpty then [] else Text.fieldsOf '.' type.package

/-- The names that lead to a type can all be in the names of files. -/
structure IsNamed (type : Interface) : Prop where
  packages : ∀ name ∈ packageNames type, Path.IsComponent name
  simple : Path.IsComponent type.simpleName

/-- The names that lead to a type are names of files. -/
structure IsFiled (type : Interface) : Prop where
  packages : ∀ name ∈ packageNames type, IsName name
  simple : IsName type.simpleName

theorem IsNamed.isFiled {type : Interface} (named : IsNamed type) : IsFiled type :=
  ⟨fun name member => (named.packages name member).isName, named.simple.isName⟩

theorem nameParts_eq (type : Interface) (suffix : String) :
    nameParts type suffix = packageNames type ++ [className type suffix] := rfl

/-- The relative name of a file of the class ends in the class's name, with the extension. -/
theorem fileName_eq (type : Interface) (extension suffix : String) :
    fileName type "/" extension suffix =
      Text.joined "/" (packageNames type ++ [className type suffix ++ extension]) := by
  rw [fileName, nameParts_eq]
  by_cases unnamed : packageNames type = []
  · rw [unnamed]
    rfl
  · rw [Path.joined_concat unnamed, Path.joined_concat unnamed]
    simp only [String.append_assoc]

end Implementation

/-- The settings that names are made with can all be in the names of files. -/
structure Settings.IsNamed (settings : Settings) : Prop where
  suffix : Path.IsPart settings.implSuffix
  sourceExtension : Path.IsPart settings.sourceExtension
  classExtension : Path.IsPart settings.classExtension
  tempPrefix : Path.IsPart settings.tempPrefix

/-- The settings that names of files are made with divide no name. -/
structure Settings.IsUndivided (settings : Settings) : Prop where
  suffix : '/' ∉ settings.implSuffix.toList
  sourceExtension : '/' ∉ settings.sourceExtension.toList
  tempPrefix : '/' ∉ settings.tempPrefix.toList

theorem Settings.IsNamed.isUndivided {settings : Settings} (named : settings.IsNamed) : settings.IsUndivided :=
  ⟨named.suffix.undivided, named.sourceExtension.undivided, named.tempPrefix.undivided⟩

/-- A compiler that is run on a source file below the first directory of its class path, where there
are no links yet, changes only what lies there, however it ends. -/
def Compiler.IsConfined (compiler : Compiler) : Prop :=
  ∀ (world : World) (workspace : Path) (others : List Path) (names : List String) (top : Location),
    world.disk.tree.IsTree → workspace.IsPlain →
    world.disk.find .look workspace = .ok (.entry top .directory) → world.disk.LinkFree top →
    names ≠ [] → (∀ name ∈ names, IsName name) →
    Ends (compiler (workspace :: others) (pathBelow workspace names)) world fun _ after =>
      StaysBelow top world.disk after.disk

namespace Implementor

open Implementation (packageNames className)

variable {settings : Settings} {type : Interface} {workspace : Path} {world : World} {top : Location}
  {implementor : Implementor}

def sourceName (settings : Settings) (type : Interface) : String :=
  className type settings.implSuffix ++ settings.sourceExtension

theorem isComponent_className (named : settings.IsNamed) (type_named : Implementation.IsNamed type) :
    Path.IsComponent (className type settings.implSuffix) :=
  type_named.simple.append named.suffix

theorem isName_sourceName (undivided : settings.IsUndivided) (filed : Implementation.IsFiled type) :
    IsName (sourceName settings type) :=
  (filed.simple.append undivided.suffix).append undivided.sourceExtension

theorem destination_eq (settings : Settings) (type : Interface) (root : Path) :
    destination settings type root =
      (pathBelow root (packageNames type)).child (sourceName settings type) := by
  unfold destination
  dsimp only
  rw [Implementation.nameParts_eq, List.dropLast_concat, List.getLast?_concat]
  exact Disk.pathBelow_concat (packageNames type) (sourceName settings type)

private theorem joined_cutName {names : List String} {extension : String}
    (components : ∀ name ∈ names, Path.IsPart name) (part : Path.IsPart extension) :
    ∀ c ∈ (Text.joined "/" names ++ extension).toList, c ≠ '\\' ∧ c ≠ '\x00' := by
  have inside {text : String} (part : Path.IsPart text) :
      ∀ c ∈ text.toList, c ≠ '\\' ∧ c ≠ '\x00' := by
    intro c member
    exact ⟨fun same => part.no_backslash (same ▸ member), fun same => part.no_nul (same ▸ member)⟩
  have names_inside : ∀ c ∈ (Text.joined "/" names).toList, c ≠ '\\' ∧ c ≠ '\x00' := by
    induction names with
    | nil => simp [Text.joined]
    | cons name others ih =>
      cases others with
      | nil => exact inside (components name List.mem_cons_self)
      | cons next rest =>
        have others := ih fun other member => components other (List.mem_cons_of_mem name member)
        intro c member
        rw [Text.joined, String.toList_append, String.toList_append, List.mem_append, List.mem_append]
          at member
        rcases member with (member | separator) | member
        · exact inside (components name List.mem_cons_self) c member
        · obtain rfl : c = '/' := by simpa using separator
          decide
        · exact others c member
  intro c member
  rw [String.toList_append, List.mem_append] at member
  rcases member with member | member
  · exact names_inside c member
  · exact inside part c member

/-- The entry of a class has the name that was asked for. -/
theorem name_packed_entryName (named : settings.IsNamed) (type_named : Implementation.IsNamed type)
    (bytes : ByteArray) :
    (ArchiveEntry.packed (entryName settings type) bytes).name = entryName settings type := by
  have plain : ∀ c ∈ (entryName settings type).toList, c ≠ '\\' ∧ c ≠ '\x00' := by
    refine joined_cutName (fun name member => ?_) named.classExtension
    rw [Implementation.nameParts_eq] at member
    rcases List.mem_append.mp member with member | member
    · exact (type_named.packages name member).part
    · obtain rfl := List.mem_singleton.mp member
      exact (isComponent_className named type_named).part
  have kept : Text.replaced (· == '\\') '/' (entryName settings type) = entryName settings type := by
    refine String.toList_inj.mp ?_
    rw [Text.replaced, String.toList_ofList]
    refine (List.map_congr_left fun c member => ?_).trans (List.map_id _)
    simp [(plain c member).1]
  have whole : (entryName settings type).toList.takeWhile (· != '\x00') =
      (entryName settings type).toList := by
    rw [List.takeWhile_eq_self_iff]
    intro c member
    simp [(plain c member).2]
  rw [ArchiveEntry.packed, kept, ArchiveEntry.cutName, whole, String.ofList_toList]

/-! ## The class file -/

/-- The class file of a type in a workspace, which `buildArchive` packages. -/
def prepare (implementor : Implementor) (type : Interface) (workspace : Path) : Job Path := do
  let file ← Job.refused (writeSource implementor.settings type workspace) fun fault =>
    .stage (.noSource fault)
  implementor.compileSource type workspace file

theorem buildArchive_eq (implementor : Implementor) (type : Interface) (archive : Path) :
    implementor.buildArchive type archive =
      Workspace.within archive implementor.settings.tempPrefix fun workspace =>
        implementor.prepare type workspace >>= fun classFile =>
          package (entryName implementor.settings type) classFile archive := by
  simp only [buildArchive, prepare, bind_assoc]

section

-- a job in a goal would be evaluated when a rule is applied to the goal
attribute [local irreducible] Ends

/-- Writing a source file makes the directories of its packages and then writes the file. What is known of the
end must not depend on the fault that making the directories ends in. -/
theorem writeSource_of_ends {post : Except Fault Path → World → Prop} {root : Path}
    (is_name : IsName (sourceName settings type))
    (ends : Ends (Disk.makeDirectories (pathBelow root (packageNames type))) world.disk fun
      | .error _, middle => ∀ fault, post (.error fault) { world with disk := middle }
      | .ok _, middle => Ends (Disk.write ((pathBelow root (packageNames type)).child (sourceName settings type))
          (.ofText (sourceText settings type))) middle fun
        | .error fault, after => post (.error (.file fault)) { world with disk := after }
        | .ok _, after => post (.ok (destination settings type root))
          { world with
            disk := after
            log := world.log ++ [⟨.debug, source, s!"wrote {(destination settings type root).text}"⟩] }) :
    Ends (writeSource settings type root) world post := by
  have whole := destination_eq settings type root
  have above : (destination settings type root).parent = pathBelow root (packageNames type) := by
    rw [whole, Path.parent_child is_name]
  unfold writeSource resolveDestination Job.refused
  dsimp only
  rw [Ends.bind_iff, Ends.bind_iff, Ends.tryCatch_iff, above, Ends.onDisk_iff]
  refine ends.mono fun r middle ends => ?_
  cases r with
  | error fault =>
    rw [mapError_error, caught_error]
    split
    · exact Ends.throw_iff.mpr (ends _)
    · exact Ends.throw_iff.mpr (ends _)
  | ok _ =>
    rw [mapError_ok, caught_ok, onward_ok, Ends.pure_iff, onward_ok, Ends.bind_iff, Ends.onDisk_iff]
    have wrote := ends
    rw [← whole] at wrote
    refine wrote.mono fun r after ends => ?_
    cases r with
    | error fault => exact ends
    | ok location =>
      rw [mapError_ok, onward_ok, Ends.bind_iff, Ends.record_iff, onward_ok, Ends.pure_iff]
      exact ends

theorem writeSource_ends (undivided : settings.IsUndivided) (filed : Implementation.IsFiled type)
    (root : world.disk.tree.IsTree) (plain : workspace.IsPlain)
    (into : world.disk.LeadsInto workspace top) (free : world.disk.LinkFree top) :
    Ends (writeSource settings type workspace) world fun r after =>
      Inside workspace top world.disk after.disk ∧
        ∀ file, r = .ok file → file = destination settings type workspace := by
  have is_name := isName_sourceName undivided filed
  refine writeSource_of_ends is_name ?_
  refine (Disk.makeDirectories_inside root plain into free filed.packages).mono fun r made inside => ?_
  cases r with
  | error fault => exact fun fault => ⟨inside, nofun⟩
  | ok _ =>
    have wrote := Disk.write_inside (.ofText (sourceText settings type)) inside.tree plain inside.into
      inside.free filed.packages is_name
    refine wrote.mono fun r written also => ?_
    have both := inside.trans also
    cases r with
    | error fault => exact ⟨both, nofun⟩
    | ok _ => exact ⟨both, fun file same => (Except.ok.inj same).symm⟩

theorem writeSource_loneFile (undivided : settings.IsUndivided) (filed : Implementation.IsFiled type)
    (root : world.disk.tree.IsTree) (plain : workspace.IsPlain)
    (into : world.disk.LeadsInto workspace top) (bare : world.disk.IsBare top) :
    Ends (writeSource settings type workspace) world fun r after => ∀ file, r = .ok file →
      after.disk.LoneFile top file (.ofText (sourceText settings type)) := by
  have is_name := isName_sourceName undivided filed
  refine writeSource_of_ends is_name ?_
  have grown := Disk.makeDirectories_ends root (Disk.pathBelow_isPlain plain filed.packages)
  refine ((Disk.makeDirectories_inside root plain into bare.linkFree filed.packages).and grown).mono
    fun r made ends => ?_
  obtain ⟨inside, -, grown, -⟩ := ends
  cases r with
  | error fault => exact fun _ => nofun
  | ok _ =>
    have wrote := @Disk.write_loneFile made workspace _ _ top (.ofText (sourceText settings type))
      inside.tree plain inside.into (bare.grown grown) filed.packages is_name
    refine wrote.mono fun r written lone => ?_
    cases r with
    | error fault => exact nofun
    | ok location =>
      rintro file done
      cases done
      rw [destination_eq]
      exact lone location rfl

end

theorem isAbsolute_classFileOf {file classFile : Path} (success : classFileOf settings file = .ok classFile) :
    classFile.isAbsolute = file.isAbsolute := by
  unfold classFileOf at success
  split at success
  · cases success
    rfl
  · cases success

/-- A compilation leaves the disk as the compiler does. -/
theorem compileSource_ends {file : Path} (left : Disk → Prop)
    (ends : Ends (implementor.compiler (classpath type workspace) file) world fun _ after =>
      left after.disk) :
    Ends (implementor.compileSource type workspace file) world fun r after => left after.disk ∧
      ∀ classFile, r = .ok classFile → classFile.isAbsolute = file.isAbsolute := by
  unfold compileSource Compiler.compile
  rw [Ends.bind_iff, Ends.bind_iff]
  refine ends.mono fun r after holds => ?_
  cases r with
  | error fault => exact ⟨holds, nofun⟩
  | ok outcome =>
    rw [onward_ok]
    by_cases ok : outcome.ok = true
    · rw [if_pos ok, Ends.pure_iff, onward_ok, if_pos ok, Ends.ofExcept_iff]
      exact ⟨holds, fun classFile => isAbsolute_classFileOf⟩
    · rw [if_neg ok, Ends.bind_iff, Ends.record_iff, onward_ok, Ends.pure_iff, onward_ok, if_neg ok]
      exact ⟨holds, nofun⟩

/-- Only what lies in the workspace changes until the class file is there. -/
theorem prepare_ends (undivided : implementor.settings.IsUndivided) (filed : Implementation.IsFiled type)
    (confined : implementor.compiler.IsConfined) (root : world.disk.tree.IsTree)
    (plain : workspace.IsPlain) (there : world.disk.find .look workspace = .ok (.entry top .directory))
    (free : world.disk.LinkFree top) :
    Ends (implementor.prepare type workspace) world fun r after =>
      StaysBelow top world.disk after.disk ∧
        ∀ classFile, r = .ok classFile → classFile.isAbsolute = true := by
  unfold prepare
  rw [Ends.bind_iff]
  refine Ends.mono (Ends.refused (writeSource_ends undivided filed root plain (.of_find there) free)
    fun fault other after ends => ⟨ends.1, nofun⟩) fun r written ends => ?_
  obtain ⟨inside, success⟩ := ends
  cases r with
  | error fault => exact ⟨inside.toStaysBelow, nofun⟩
  | ok file =>
    obtain rfl := success file rfl
    rw [onward_ok]
    have there := inside.into.find (Disk.fits_of_find there)
    have below : destination implementor.settings type workspace =
        pathBelow workspace (packageNames type ++ [sourceName implementor.settings type]) := by
      rw [destination_eq, Disk.pathBelow_concat]
    have names : ∀ name ∈ packageNames type ++ [sourceName implementor.settings type],
        IsName name := by
      intro name member
      rcases List.mem_append.mp member with member | member
      · exact filed.packages name member
      · obtain rfl := List.mem_singleton.mp member
        exact isName_sourceName undivided filed
    rw [below]
    have compiled := confined written workspace type.codeSource.toList _ top inside.tree plain there
      inside.free (by simp) names
    refine (compileSource_ends (StaysBelow top written.disk) compiled).mono fun r after ends => ?_
    obtain ⟨also, success⟩ := ends
    refine ⟨inside.toStaysBelow.trans also, fun classFile done => ?_⟩
    rw [success classFile done, Disk.pathBelow_eq names]
    exact plain.absolute

/-- The compiler accepts the source of a type, which is the only file in a workspace, and the class file is the one
that belongs to it. -/
structure Compiles (implementor : Implementor) (type : Interface) (workspace : Path) (top : Location)
    (written : World) (classFile : Path) (after : World) : Prop where
  tree : written.disk.tree.IsTree
  there : written.disk.find .look workspace = .ok (.entry top .directory)
  source : written.disk.LoneFile top
    ((pathBelow workspace (packageNames type)).child (sourceName implementor.settings type))
    (.ofText (Implementation.source ⟨implementor.settings.implSuffix, implementor.settings.indent⟩ type))
  accepted : ∃ outcome, (implementor.compiler (workspace :: type.codeSource.toList)
      ((pathBelow workspace (packageNames type)).child (sourceName implementor.settings type))).run written =
    (.ok outcome, after) ∧ outcome.ok = true
  classFile : classFile = ((pathBelow workspace (packageNames type)).child
    (sourceName implementor.settings type)).withSuffix implementor.settings.classExtension

/-- A class file that was prepared is what the compiler has made of the source. -/
theorem prepare_compiled (undivided : implementor.settings.IsUndivided) (filed : Implementation.IsFiled type)
    (root : world.disk.tree.IsTree) (plain : workspace.IsPlain)
    (there : world.disk.find .look workspace = .ok (.entry top .directory)) (bare : world.disk.IsBare top) :
    Ends (implementor.prepare type workspace) world fun r after => ∀ classFile, r = .ok classFile →
      ∃ written, implementor.Compiles type workspace top written classFile after := by
  have into : world.disk.LeadsInto workspace top := .of_find there
  unfold prepare
  rw [Ends.bind_iff]
  have wrote := (writeSource_ends undivided filed root plain into bare.linkFree).and
    (writeSource_loneFile undivided filed root plain into bare)
  refine Ends.mono (Ends.refused wrote fun fault other after ends => ⟨⟨ends.1.1, nofun⟩, nofun⟩)
    fun r written ends => ?_
  obtain ⟨⟨inside, success⟩, lone⟩ := ends
  cases r with
  | error fault => exact nofun
  | ok file =>
    have lone := lone file rfl
    obtain rfl := success file rfl
    have there := inside.into.find (Disk.fits_of_find there)
    rw [destination_eq] at lone ⊢
    obtain ⟨r, after, run⟩ := Ends.exists_run (implementor.compiler (classpath type workspace)
      ((pathBelow workspace (packageNames type)).child (sourceName implementor.settings type))) written
    rw [onward_ok]
    unfold compileSource Compiler.compile
    rw [Ends.bind_iff, Ends.bind_iff, Ends.of_run run]
    cases r with
    | error fault => exact nofun
    | ok outcome =>
      rw [onward_ok]
      by_cases ok : outcome.ok = true
      · rw [if_pos ok, Ends.pure_iff, onward_ok, if_pos ok, Ends.ofExcept_iff]
        intro classFile done
        refine ⟨written, inside.tree, there, lone, ⟨outcome, run, ok⟩, ?_⟩
        unfold classFileOf at done
        split at done
        · exact (Except.ok.inj done).symm
        · cases done
      · rw [if_neg ok, Ends.bind_iff, Ends.record_iff, onward_ok, Ends.pure_iff, onward_ok, if_neg ok]
        exact nofun

end Implementor
end JavaStubs

import JavaStubs.Proofs.Files.Lexical
import JavaStubs.Proofs.Implementor.Archiving
import JavaStubs.Proofs.Implementor.Placing

/-!
Class files of implementations. The entry of an archive is named after the class, with the extension of class
files behind it, and the class file that is read for it after the source file, whose suffix is replaced. Both
are the same file exactly if the extension of source files is what that suffix is.
-/
namespace JavaStubs.Implementor

open Implementation (packageNames className)
open JavaStubs.Path (IsName)
open Disk (pathBelow)

variable {implementor : Implementor} {settings : Settings} {type : Interface} {workspace : Path} {world : World}

/-- The extensions of settings fit each other for a type: that of class files can take the place of a suffix,
and that of source files is all of the suffix that the name of the source file has. -/
structure FitsExtensions (settings : Settings) (type : Interface) : Prop where
  classExtension : Path.isSuffix settings.classExtension = true
  sourceExtension : Path.IsExtension settings.sourceExtension ∨
    settings.sourceExtension = "" ∧ Path.suffixOf (className type settings.implSuffix) = ""

/-- The class file that an entry is named after lies in the directories of the packages, under the name of the
class with the extension. -/
theorem child_entryName (packages : ∀ name ∈ packageNames type, IsName name)
    (is_name : IsName (className type settings.implSuffix)) (undivided : '/' ∉ settings.classExtension.toList)
    (workspace : Path) : workspace.child (entryName settings type) = ⟨workspace.anchor,
      workspace.names ++ packageNames type ++ [className type settings.implSuffix ++ settings.classExtension]⟩ := by
  have named : ∀ name ∈ packageNames type ++ [className type settings.implSuffix ++ settings.classExtension],
      IsName name := by
    intro name member
    rcases List.mem_append.mp member with member | member
    · exact packages name member
    · exact List.mem_singleton.mp member ▸ is_name.append undivided
  rw [Path.child, entryName, Implementation.fileName_eq, Path.ofText_joined named, List.append_assoc]
  rfl

/-- The class file of a source file lies in the directories of the packages, under the stem of the name with the
extension. -/
theorem withSuffix_destination (packages : ∀ name ∈ packageNames type, IsName name)
    (is_name : IsName (sourceName settings type)) (workspace : Path) :
    (destination settings type workspace).withSuffix settings.classExtension = ⟨workspace.anchor,
      workspace.names ++ packageNames type ++
        [Path.stemOf (sourceName settings type) ++ settings.classExtension]⟩ := by
  rw [destination_eq, Path.withSuffix_child_eq is_name, Disk.pathBelow_eq packages]

theorem classFileOf_eq_iff (packages : ∀ name ∈ packageNames type, IsName name)
    (is_name : IsName (className type settings.implSuffix))
    (undivided : '/' ∉ settings.sourceExtension.toList) (workspace : Path) :
    classFileOf settings (destination settings type workspace) =
      .ok (workspace.child (entryName settings type)) ↔ FitsExtensions settings type := by
  unfold classFileOf
  by_cases suffix : Path.isSuffix settings.classExtension = true
  · have class_undivided : '/' ∉ settings.classExtension.toList := by
      simp only [Path.isSuffix, Bool.and_eq_true, Bool.not_eq_true', List.contains_eq_mem,
        decide_eq_false_iff_not] at suffix
      exact suffix.1
    have stem := @Path.stemOf_append_iff (className type settings.implSuffix) settings.sourceExtension
      is_name.nonempty
    rw [if_pos suffix, withSuffix_destination packages (is_name.append undivided),
      child_entryName packages is_name class_undivided]
    constructor
    · intro same
      -- Only the last names can differ, and they do only in front of the extension.
      have names := (Path.mk.inj (Except.ok.inj same)).2
      have last := (List.cons.inj (List.append_cancel_left names)).1
      have chars := congrArg String.toList last
      rw [String.toList_append, String.toList_append] at chars
      exact ⟨suffix, stem.mp (String.toList_inj.mp (List.append_cancel_right chars))⟩
    · rintro ⟨-, fits⟩
      rw [sourceName, stem.mpr fits]
  · rw [if_neg suffix]
    exact iff_of_false (by simp) fun fits => suffix fits.classExtension

theorem classFileOf_eq_error_iff (file : Path) (fault : Fault) : classFileOf settings file = .error fault ↔
    Path.isSuffix settings.classExtension = false ∧ fault = .noSuffix settings.classExtension := by
  unfold classFileOf
  by_cases suffix : Path.isSuffix settings.classExtension = true
  · rw [if_pos suffix, suffix]
    exact iff_of_false nofun nofun
  · rw [if_neg suffix]
    have unfit : Path.isSuffix settings.classExtension = false := by simpa using suffix
    rw [Except.error.injEq]
    exact ⟨fun same => ⟨unfit, same.symm⟩, fun unfit => unfit.2.symm⟩

/-- What is told of an accepted source file is its class file. -/
theorem compileSource_accepted {file : Path}
    (accepts : Ends (implementor.compiler (classpath type workspace) file) world fun r _ =>
      ∃ outcome, r = .ok outcome ∧ outcome.ok = true) :
    Ends (implementor.compileSource type workspace file) world fun r _ =>
      r = classFileOf implementor.settings file := by
  unfold compileSource Compiler.compile
  rw [Ends.bind_iff, Ends.bind_iff]
  refine accepts.mono fun r after accepted => ?_
  obtain ⟨outcome, rfl, ok⟩ := accepted
  rw [onward_ok, if_pos ok, Ends.pure_iff, onward_ok, if_pos ok, Ends.ofExcept_iff]

/-- When the compiler accepts the source file of a type, the class file that is told is the one that the entry
is named after exactly if the extensions fit, and none is told exactly if the extension of class files can take
the place of no suffix. -/
theorem compileSource_tells (implementor : Implementor) (type : Interface) (workspace : Path) (world : World)
    (packages : ∀ name ∈ packageNames type, IsName name) (simple : IsName type.simpleName)
    (suffix : '/' ∉ implementor.settings.implSuffix.toList)
    (extension : '/' ∉ implementor.settings.sourceExtension.toList)
    (accepts : Ends (implementor.compiler (classpath type workspace)
      (destination implementor.settings type workspace)) world fun r _ =>
        ∃ outcome, r = .ok outcome ∧ outcome.ok = true) :
    Ends (implementor.compileSource type workspace (destination implementor.settings type workspace)) world
      fun r _ =>
        (r = .ok (workspace.child (entryName implementor.settings type)) ↔
          FitsExtensions implementor.settings type) ∧
        ∀ fault, r = .error fault ↔ Path.isSuffix implementor.settings.classExtension = false ∧
          fault = .noSuffix implementor.settings.classExtension := by
  refine (compileSource_accepted accepts).mono fun r after told => ?_
  rw [told]
  exact ⟨classFileOf_eq_iff packages (simple.append suffix) extension workspace, classFileOf_eq_error_iff _⟩

/-! ### An interface and its class files -/

/-- An implementor of one interface, with a compiler that accepts every source file. -/
def acceptingAll (settings : Settings) : Implementor where
  settings := settings
  introspector := Catalog.introspector (.ofTypes [shape])
  compiler := fun _ _ => return ⟨0, "", ""⟩
  journal := none

/-- What is told of the interface's source file, in one workspace. -/
def shapeClassFile (settings : Settings) : Job Path :=
  (acceptingAll settings).compileSource shape (.ofText "/w") (destination settings shape (.ofText "/w"))

theorem compileSource_tells_shape :
    Settings.load Config.defaults [] [] = .ok standard ∧ FitsExtensions standard shape ∧
    Ends (shapeClassFile standard) nowhere fun r _ =>
      r = .ok (Path.child (.ofText "/w") (entryName standard shape)) := by
  have fits : FitsExtensions standard shape :=
    ⟨by decide +kernel, .inl ⟨"java".toList, by decide, by decide, by decide⟩⟩
  have packages : ∀ name ∈ packageNames shape, IsName name := by
    have only : packageNames shape = ["geo"] := by decide +kernel
    rw [only]
    intro name member
    obtain rfl := List.mem_singleton.mp member
    exact ⟨by decide, by decide, by decide, by decide⟩
  have accepts : Ends ((acceptingAll standard).compiler (classpath shape (.ofText "/w"))
      (destination standard shape (.ofText "/w"))) nowhere fun r _ =>
        ∃ outcome, r = .ok outcome ∧ outcome.ok = true := ⟨⟨0, "", ""⟩, rfl, rfl⟩
  have tells := compileSource_tells (acceptingAll standard) shape (.ofText "/w") nowhere packages
    ⟨by decide, by decide, by decide, by decide⟩ (by decide) (by decide) accepts
  exact ⟨load_standard, fits, tells.mono fun r after told => told.1.mpr fits⟩

/-- Accepted settings with a source extension of two dots, of which the class file keeps the first part, and
others with a class extension without a dot, with which no class file is told at all. -/
theorem classFile_strays :
    (Settings.load Config.defaults [] [("source_extension", .text ".gen.java")] =
        .ok { standard with sourceExtension := ".gen.java" } ∧
      Ends (shapeClassFile { standard with sourceExtension := ".gen.java" }) nowhere fun r _ =>
        r.toOption = some (.ofText "/w/geo/ShapeImpl.gen.class") ∧
        Path.child (.ofText "/w") (entryName { standard with sourceExtension := ".gen.java" } shape) =
          .ofText "/w/geo/ShapeImpl.class") ∧
    Settings.load Config.defaults [] [("class_extension", .text "class")] =
        .ok { standard with classExtension := "class" } ∧
      Ends (shapeClassFile { standard with classExtension := "class" }) nowhere fun r _ =>
        r = .error (.noSuffix "class") ∧
        Path.child (.ofText "/w") (entryName { standard with classExtension := "class" } shape) =
          .ofText "/w/geo/ShapeImplclass" := by
  refine ⟨⟨eq_ok_of_toOption (by decide +kernel), ?_⟩, eq_ok_of_toOption (by decide +kernel), ?_⟩
  · unfold Ends
    decide +kernel
  · have unfit : classFileOf { standard with classExtension := "class" }
        (destination standard shape (.ofText "/w")) = .error (.noSuffix "class") :=
      (classFileOf_eq_error_iff _ _).mpr ⟨by decide +kernel, rfl⟩
    refine (compileSource_accepted ⟨⟨0, "", ""⟩, rfl, rfl⟩).mono fun r after told => ?_
    exact ⟨told.trans unfit, by decide +kernel⟩

end JavaStubs.Implementor

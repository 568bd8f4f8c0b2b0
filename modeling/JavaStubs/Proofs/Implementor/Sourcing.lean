import JavaStubs.Proofs.Files.Below
import JavaStubs.Proofs.Files.Reading
import JavaStubs.Proofs.Implementor.Answering
import JavaStubs.Proofs.Implementor.Archiving
import JavaStubs.Proofs.UnicodeEscape.RoundTrip

/-!
The source file that is asked for. Where its names are proper and no links lead astray, it is written as a whole
in its place below the output root, or it is given up with a warning. Then no file is different, and all that may
be new are directories on the way to it.
-/
namespace JavaStubs

open JavaStubs.Path (IsName)

namespace Disk

variable {before middle after : Disk} {path : Path} {location : Location} {content : Content}

/-- At a location there is a new directory, and a part of a path leads to it. -/
def IsNewOn (path : Path) (before after : Disk) (location : Location) : Prop :=
  before.tree.get? location = none ∧ after.tree.get? location = some .directory ∧
    ∃ names, names <+: path.names ∧ after.LeadsInto ⟨path.anchor, names⟩ location

/-- When a file was written, there may be new directories elsewhere, and all else is as it was. -/
theorem Grown.written (grown : Grown path before middle) (root : middle.tree.IsTree)
    (alike : StartsAlike middle after path) (written : Written location content middle after)
    {other : Location} (different : other ≠ location) :
    SameAt before after other ∨ IsNewOn path before after other := by
  have still := written.others other different
  rcases grown other with same | ⟨vacant, made, names, start, leads⟩
  · exact .inl (same.trans still)
  · refine .inr ⟨vacant, still.1.trans made, names, start, ?_⟩
    exact leads.kept_of_alike root (alike.of_anchor rfl) written.keepsRoutes

end Disk

namespace Implementor

open Disk (Grown SameAt IsNewOn IsWritable StartsAlike Written pathBelow)
open Implementation (packageNames)

variable {implementor : Implementor} {settings : Settings} {described : Interface} {root : Path} {world : World}

/-! ## The place of the source file -/

/-- The settings that the name of a source file is made with can all be in the names of files. -/
structure NamesSources (settings : Settings) : Prop where
  suffix : Path.IsPart settings.implSuffix
  extension : Path.IsPart settings.sourceExtension

theorem NamesSources.isComponent (named : NamesSources settings) (type_named : Implementation.IsNamed described) :
    Path.IsComponent (sourceName settings described) :=
  (type_named.simple.append named.suffix).append named.extension

/-- The source file lies in the directories of the packages, one below the other. -/
theorem destination_names (named : NamesSources settings) (type_named : Implementation.IsNamed described)
    (root : Path) : destination settings described root =
      ⟨root.anchor, root.names ++ (packageNames described ++ [sourceName settings described])⟩ := by
  have all : ∀ name ∈ packageNames described ++ [sourceName settings described], IsName name := by
    intro name member
    rcases List.mem_append.mp member with package | last
    · exact (type_named.packages name package).isName
    · obtain rfl := List.mem_singleton.mp last
      exact (named.isComponent type_named).isName
  rw [destination_eq, ← Disk.pathBelow_concat, Disk.pathBelow_eq all]

/-- The part of the path that lies below the root is the relative name of the source file. -/
theorem joined_sourceName (settings : Settings) (described : Interface) :
    Text.joined "/" (packageNames described ++ [sourceName settings described]) =
      Implementation.fileName described "/" settings.sourceExtension settings.implSuffix :=
  (Implementation.fileName_eq described settings.sourceExtension settings.implSuffix).symm

theorem hasNul_destination (named : NamesSources settings) (type_named : Implementation.IsNamed described)
    (free : Path.hasNul root.text = false) : Path.hasNul (destination settings described root).text = false := by
  have clear {text : String} (part : Path.IsPart text) : Path.hasNul text = false := by
    simpa [Path.hasNul] using part.no_nul
  rw [Path.hasNul_text] at free
  rw [destination_names named type_named, Path.hasNul_text, List.any_append, free, List.any_append,
    List.any_cons, clear (named.isComponent type_named).part, List.any_nil, Bool.or_false, Bool.or_false,
    Bool.false_or, List.any_eq_false]
  intro name member
  simp [clear (type_named.packages name member).part]

theorem isClean_packages (type_named : Implementation.IsNamed described) (clean : root.IsClean) :
    (pathBelow root (packageNames described)).IsClean := by
  have all : ∀ name ∈ packageNames described, IsName name := fun name member =>
    (type_named.packages name member).isName
  rw [Disk.pathBelow_eq all]
  intro name member up
  rcases List.mem_append.mp member with member | member
  · exact clean name member up
  · exact all name member

/-! ## Writing it -/

/-- The compilation unit of a type was written at a location below a root, unless a device that lay there has
taken it. All else is as it was, but for new directories on the way. -/
structure Sourced (settings : Settings) (described : Interface) (root : Path) (before after : Disk)
    (location : Location) : Prop where
  names : destination settings described root =
    ⟨root.anchor, root.names ++ (packageNames described ++ [sourceName settings described])⟩
  relative : Text.joined "/" (packageNames described ++ [sourceName settings described]) =
    Implementation.fileName described "/" settings.sourceExtension settings.implSuffix
  lies : ∃ entry, after.find .look (destination settings described root) = .ok (.entry location entry) ∧
    (entry = .file (.ofText (Implementation.source ⟨settings.implSuffix, settings.indent⟩ described)) ∨
      entry = .sink ∧ before.tree.get? location = some .sink)
  bytes : (Content.ofText (Implementation.source ⟨settings.implSuffix, settings.indent⟩ described)).toBytes =
    ((Implementation.source ⟨settings.implSuffix, settings.indent⟩ described).toList.map fun c =>
      UInt8.ofNat c.toNat).toByteArray
  ascii : ∀ c ∈ (Implementation.source ⟨settings.implSuffix, settings.indent⟩ described).toList, c.toNat < 128
  was : ∀ entry, before.tree.get? location = some entry → IsWritable entry
  others : ∀ other, other ≠ location → SameAt before after other ∨
    IsNewOn (destination settings described root).parent before after other

theorem ascii_source (style : Implementation.Style) (described : Interface) :
    ∀ c ∈ (Implementation.source style described).toList, c.toNat < 128 := by
  intro c member
  rw [Implementation.source, UnicodeEscape.encoded, String.toList_ofList] at member
  exact UnicodeEscape.ascii_of_mem_encode member

theorem Sourced.of_written {before middle after : Disk} {location : Location} (named : NamesSources settings)
    (type_named : Implementation.IsNamed described)
    (grown : Grown (destination settings described root).parent before middle) (tree : middle.tree.IsTree)
    (alike : StartsAlike middle after (destination settings described root).parent)
    (written : Written location (.ofText (sourceText settings described)) middle after) {entry : Entry}
    (found : after.find .look (destination settings described root) = .ok (.entry location entry))
    (held : after.tree.get? location = some entry) :
    Sourced settings described root before after location where
  names := destination_names named type_named root
  relative := joined_sourceName settings described
  lies := by
    refine ⟨entry, found, ?_⟩
    rcases written.is with file | ⟨was, sink⟩
    · exact .inl (Option.some.inj (held.symm.trans file))
    · exact .inr ⟨Option.some.inj (held.symm.trans sink), grown.was_there nofun was⟩
  bytes := UnicodeEscape.toUTF8_encoded _
  ascii := ascii_source _ described
  was := fun other there => written.was other (grown.still_there there)
  others := fun _ different => grown.written tree alike written different

section

-- a job in a goal would be evaluated when a rule is applied to the goal
attribute [local irreducible] Ends

/-- The source is written in its place, or there are at most new directories. -/
theorem writeSource_sourced (named : NamesSources settings) (type_named : Implementation.IsNamed described)
    (clean : root.IsClean) (tree : world.disk.tree.IsTree)
    (start : world.disk.tree.get? (world.disk.start root) = some .directory)
    (linkless : world.disk.tree.IsLinkless) :
    Ends (writeSource settings described root) world fun
      | .ok path, after => path = destination settings described root ∧
          (∃ location, Sourced settings described root world.disk after.disk location) ∧
          after.log = world.log ++ [⟨.debug, source, s!"wrote {path.text}"⟩]
      | .error _, after => Grown (destination settings described root).parent world.disk after.disk ∧
          after.log = world.log := by
  have is_name := (named.isComponent type_named).isName
  have all : ∀ name ∈ packageNames described, IsName name := fun name member =>
    (type_named.packages name member).isName
  have above : (destination settings described root).parent = pathBelow root (packageNames described) := by
    rw [destination_eq, Path.parent_child is_name]
  have start_above : world.disk.tree.get? (world.disk.start (pathBelow root (packageNames described))) =
      some .directory := by
    rw [Disk.pathBelow_eq all]
    exact start
  refine writeSource_of_ends is_name ?_
  rw [← above] at start_above ⊢
  have clean_above : (destination settings described root).parent.IsClean := by
    rw [above]
    exact isClean_packages type_named clean
  refine (Disk.makeDirectories_opens tree start_above clean_above).mono fun r middle opened => ?_
  obtain ⟨tree, here, grown, -⟩ := opened
  cases r with
  | error fault => exact fun _ => ⟨grown, rfl⟩
  | ok _ =>
    have start := (StartsAlike.of_here start_above here).start_after grown.keepsRoutes
    have no_link : middle.EndsInNoLink ((destination settings described root).parent.child
        (sourceName settings described)) := fun location _ => grown.isLinkless linkless location
    have wrote := @Disk.write_child_found middle _ _ (.ofText (sourceText settings described)) tree start is_name
      no_link
    refine wrote.mono fun r after ends => ?_
    cases r with
    | error fault =>
      obtain rfl : after = middle := ends
      exact ⟨grown, rfl⟩
    | ok location =>
      obtain ⟨written, alike, entry, found, held⟩ := ends
      rw [above, ← destination_eq] at found
      exact ⟨rfl, ⟨location, .of_written named type_named grown tree alike written found held⟩, rfl⟩

end

/-- If writing a source with a proper name fails, that is given up quietly. -/
theorem writeSource_quietly (named : NamesSources settings) (type_named : Implementation.IsNamed described)
    (free : Path.hasNul root.text = false) (world : World) :
    Ends (writeSource settings described root) world fun r _ =>
      ∀ fault, r = .error fault → ∃ report, quietly? fault = some report := by
  refine (writeSource_faults settings described root world).mono fun r _ faults fault failed => ?_
  subst failed
  have spelled := hasNul_destination named type_named free
  have blocked : IsBlocked fault := faults.resolve_right fun unspelled => by simp [spelled] at unspelled
  exact Option.isSome_iff_exists.mp (quietly?_isSome_iff.mpr blocked)

/-! ## Asking for it -/

/-- Nothing is in the way of the names of a source file that is asked for: they are proper, as is that of the
root, and there are no links, and the working directory is one. There is no journal either, and the introspector
changes no files, and fails only with invalid input. -/
structure IsClear (implementor : Implementor) (type root : String) (world : World) : Prop where
  silent : implementor.journal = none
  named : NamesSources implementor.settings
  describes : Ends (implementor.introspector type) world fun r after => after.disk = world.disk ∧
    ∀ described, r = .ok described → Implementation.IsNamed described
  refuses : Ends (implementor.introspector type) world fun r _ =>
    ∀ fault, r = .error fault → ∃ cause, fault = .stage (.invalidInput cause)
  free : Path.hasNul root = false
  tree : world.disk.tree.IsTree
  stands : world.disk.tree.get? world.disk.here = some .directory
  linkless : world.disk.tree.IsLinkless

/-- The type that is asked for is described by proper names, or refused as invalid input. -/
theorem IsClear.answers {type text : String} (clear : implementor.IsClear type text world) :
    Ends (Introspection.implementable implementor.introspector type) world fun answer ready =>
      ready.disk = world.disk ∧ (∀ described, answer = .ok described → Implementation.IsNamed described) ∧
        ∀ fault, answer = .error fault → ∃ cause, fault = .stage (.invalidInput cause) := by
  refine ((implementable_ends clear.describes).and
    (implementable_refusals implementor.introspector type world)).mono fun answer ready ends => ?_
  obtain ⟨⟨same, named⟩, refusals⟩ := ends
  refine ⟨same, fun described done => (named described done).1, fun fault failed => ?_⟩
  rcases refusals fault failed with invalid | raised
  · exact invalid
  · obtain ⟨_, _, all, raised⟩ := (clear.refuses.and raised).elim
    exact all fault raised

/-- How it is settled that a source was asked for, once its type has been described or refused: it is written,
it is given up with a single warning, or the input is invalid. -/
inductive Settles (implementor : Implementor) (type : String) (root : Path) (ready after : World) :
    Except Fault Interface → Except Fault (Option Path) → Prop where
  | written {described : Interface} {location : Location}
      (sourced : Sourced implementor.settings described root ready.disk after.disk location)
      (logged : after.log = ready.log ++
        [⟨.debug, source, s!"wrote {(destination implementor.settings described root).text}"⟩]) :
      Settles implementor type root ready after (.ok described)
        (.ok (some (destination implementor.settings described root)))
  | abandoned {described : Interface} {fault : Fault} {report : String}
      (blocked : Ends (writeSource implementor.settings described root) ready fun r _ => r = .error fault)
      (quiet : quietly? fault = some report)
      (grown : Grown (destination implementor.settings described root).parent ready.disk after.disk)
      (warned : after.log = ready.log ++
        [⟨.warning, source, s!"Could not create file for {type}: {report}"⟩]) :
      Settles implementor type root ready after (.ok described) (.ok none)
  | refused {cause : InputCause} (same : after.disk = ready.disk) :
      Settles implementor type root ready after (.error (.stage (.invalidInput cause)))
        (.error (.stage (.invalidInput cause)))

/-- A source that is asked for is written in its place, which its root and its relative name make up, or it is
given up with a warning and no file is different, or the input is invalid and nothing is. -/
theorem generateSource_settles (implementor : Implementor) (type root : String) (world : World)
    (clear : implementor.IsClear type root world) :
    Ends (Introspection.implementable implementor.introspector type) world fun answer ready =>
      ready.disk = world.disk ∧ Ends (implementor.generateSource type (.ofText root)) world fun r after =>
        implementor.Settles type (.ofText root) ready after answer r := by
  have answers := clear.answers
  obtain ⟨silent, named, -, -, free, tree, stands, linkless⟩ := clear
  obtain ⟨answer, ready, run⟩ :=
    Ends.exists_run (Introspection.implementable implementor.introspector type) world
  rw [Ends.of_run run] at answers ⊢
  obtain ⟨same, described_named, invalid⟩ := answers
  refine ⟨same, ?_⟩
  unfold generateSource describe
  rw [Ends.bind_iff, Ends.tryCatch_iff, Ends.of_run run]
  cases answer with
  | error fault =>
    obtain ⟨cause, rfl⟩ := invalid fault rfl
    rw [caught_error]
    dsimp only
    unfold noteFailure
    rw [note_of_none silent, Ends.bind_iff, Ends.pure_iff, onward_ok, Ends.throw_iff]
    exact .refused rfl
  | ok described =>
    have type_named := described_named described rfl
    have start : ready.disk.tree.get? (ready.disk.start (.ofText root)) = some .directory := by
      rw [same, Disk.start]
      split
      · rfl
      · exact stands
    have clear_root : Path.hasNul (Path.ofText root).text = false :=
      Bool.eq_false_iff.mpr fun nul => by simp [Path.hasNul_of_ofText nul] at free
    have sourced := writeSource_sourced named type_named (Path.isClean_ofText root) (same ▸ tree) start
      (same ▸ linkless)
    have quietly := writeSource_quietly named type_named clear_root ready
    obtain ⟨r, after, wrote⟩ :=
      Ends.exists_run (writeSource implementor.settings described (.ofText root)) ready
    rw [Ends.of_run wrote] at sourced quietly
    rw [caught_ok, onward_ok, Ends.bind_iff, Ends.attempt_iff, Ends.of_run wrote, onward_ok]
    cases r with
    | ok path =>
      obtain ⟨rfl, ⟨location, sourced⟩, logged⟩ := sourced
      dsimp only
      rw [note_of_none silent, Ends.bind_iff, Ends.pure_iff, onward_ok, Ends.pure_iff]
      exact .written sourced logged
    | error fault =>
      obtain ⟨grown, logged⟩ := sourced
      obtain ⟨report, quiet⟩ := quietly fault rfl
      dsimp only
      rw [quiet]
      dsimp only
      rw [Ends.bind_iff, Ends.record_iff, onward_ok, note_of_none silent, Ends.bind_iff, Ends.pure_iff, onward_ok,
        Ends.pure_iff]
      exact .abandoned ((Ends.of_run wrote).mpr rfl) quiet grown (by rw [logged])

theorem generateSource_settles_site :
    (shapeMaker (.file (.ofText "code"))).IsClear "geo.Shape" "o/../new" site ∧
    (((shapeMaker (.file (.ofText "code"))).generateSource "geo.Shape" (.ofText "o/../new")).run
      site).1.toOption = some (some (.ofText "o/../new/geo/ShapeImpl.java")) ∧
    Ends (Introspection.implementable (shapeMaker (.file (.ofText "code"))).introspector "geo.Shape") site
      fun answer ready => ready.disk = site.disk ∧
        Ends ((shapeMaker (.file (.ofText "code"))).generateSource "geo.Shape" (.ofText "o/../new")) site
          fun r after => (shapeMaker (.file (.ofText "code"))).Settles "geo.Shape" (.ofText "o/../new") ready
            after answer r := by
  have found : (shapeMaker (.file (.ofText "code"))).introspector "geo.Shape" = pure shape := rfl
  have clear : (shapeMaker (.file (.ofText "code"))).IsClear "geo.Shape" "o/../new" site := by
    refine ⟨rfl, ⟨by decide, by decide⟩, ?_, ?_, by decide, root_site, rfl,
      FileTree.isLinkless_of_entries (by decide +kernel)⟩
    · rw [found, Ends.pure_iff]
      refine ⟨rfl, fun described same => ?_⟩
      cases same
      exact ⟨by decide +kernel, by decide +kernel⟩
    · rw [found, Ends.pure_iff]
      exact nofun
  exact ⟨clear, by decide +kernel, generateSource_settles _ "geo.Shape" "o/../new" site clear⟩

/-- A type whose name, with one letter behind it, is that of a device. -/
def nu : Interface := .describe "" "nu" "" [] true false none

/-- An implementor of that type which adds the letter, and the rest of the name for the extension. -/
def nuMaker : Implementor where
  settings := { (shapeMaker .directory).settings with implSuffix := "l", sourceExtension := "l" }
  introspector := Catalog.introspector (.ofTypes [nu])
  compiler := (shapeMaker .directory).compiler
  journal := none

/-- The site with the device in it keeps nothing of the source, of which the path is answered all the same. -/
theorem source_swallowed :
    nuMaker.IsClear "nu" "o" site ∧
    Ends (nuMaker.generateSource "nu" (.ofText "o")) site fun r after =>
      r.toOption = some (some (.ofText "o/null")) ∧
      after.disk.find .look (.ofText "o/null") = .ok (.entry ["null", "o"] .sink) ∧
      Disk.Holds after.disk (.ofText "o/null") .empty ∧
      (Implementation.source ⟨nuMaker.settings.implSuffix, nuMaker.settings.indent⟩ nu).toUTF8 ≠ .empty := by
  have found : nuMaker.introspector "nu" = pure nu := rfl
  refine ⟨⟨rfl, ⟨by decide, by decide⟩, ?_, ?_, by decide, root_site, rfl,
      FileTree.isLinkless_of_entries (by decide +kernel)⟩, ?_⟩
  · rw [found, Ends.pure_iff]
    refine ⟨rfl, fun described same => ?_⟩
    cases same
    exact ⟨by decide +kernel, by decide +kernel⟩
  · rw [found, Ends.pure_iff]
    exact nofun
  · unfold Ends
    have device : ((nuMaker.generateSource "nu" (.ofText "o")).run site).2.disk.find .look (.ofText "o/null") =
        .ok (.entry ["null", "o"] .sink) := by decide +kernel
    exact ⟨by decide +kernel, device, .of_device (by decide +kernel) device, by decide +kernel⟩

end Implementor
end JavaStubs

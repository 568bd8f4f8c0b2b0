import JavaStubs.Java.Implementation
import JavaStubs.Proofs.Files.Lexical
import JavaStubs.Proofs.Introspection.Privacy
import JavaStubs.Proofs.Java.Descriptors

/-!
How described types are named. The package is what stands in front of the last dot of the binary name, the simple
name is what stands behind the last dollar sign of the rest, and the canonical name has a dot for every dollar
sign. So the last part of the canonical name is the simple name. But a dollar sign in the package counts as well:
the canonical name begins with the package only if there is none.
-/
namespace JavaStubs

/-! ## Texts and their fields -/

namespace Text

variable {c : Char} {divides other : Char → Bool} {text : List Char}

/-- The last field is what stands behind the last separator. -/
theorem getLast?_fields (sep : Char) (text : List Char) :
    (fields (· == sep) text).getLast? = some (afterLast sep text) := by
  by_cases divided : sep ∈ text
  · obtain ⟨front, whole⟩ := suffix_afterLast divided
    have cut : fields (· == sep) (front ++ sep :: afterLast sep text) =
        fields (· == sep) front ++ fields (· == sep) (afterLast sep text) :=
      fields_append_cons (by simp) front _
    rw [whole, Path.fields_eq_singleton (not_mem_afterLast sep text)] at cut
    rw [cut, List.getLast?_concat]
  · rw [Path.fields_eq_singleton divided, afterLast_of_undivided divided]
    rfl

theorem fields_congr (same : ∀ c ∈ text, divides c = other c) : fields divides text = fields other text := by
  induction text with
  | nil => rfl
  | cons c text ih =>
    rw [fields, fields, same c List.mem_cons_self, ih fun d member => same d (List.mem_cons_of_mem c member)]

theorem joined_fieldsOf (sep : String) (single : sep.toList = [c]) (text : String) :
    joined sep (fieldsOf c text) = text := by
  have back : String.toList ∘ String.ofList = id := funext fun text => String.toList_ofList
  refine String.toList_inj.mp ?_
  rw [Path.toList_joined single, fieldsOf, List.map_map, back, List.map_id, intercalate_fields]

theorem toList_dot : ".".toList = ['.'] := rfl

theorem fieldsOf_append_dot (text rest : String) :
    fieldsOf '.' (text ++ "." ++ rest) = fieldsOf '.' text ++ fieldsOf '.' rest := by
  rw [fieldsOf, String.toList_append, String.toList_append, toList_dot, List.append_assoc, List.singleton_append,
    fields_append_cons (by decide), List.map_append, fieldsOf, fieldsOf]

theorem flatMap_fieldsOf {sep : Char} {names : List String} (undivided : ∀ name ∈ names, sep ∉ name.toList) :
    names.flatMap (fieldsOf sep) = names := by
  rw [List.flatMap_congr fun name member => Path.fieldsOf_of_undivided (undivided name member),
    List.flatMap_singleton']

/-- Names that are fields in turn, as far as they go, have no separators in them. -/
theorem undivided_of_flatMap_fieldsOf {sep : Char} {names rest more : List String}
    (same : names.flatMap (fieldsOf sep) ++ more = names ++ rest) : ∀ name ∈ names, sep ∉ name.toList := by
  induction names with
  | nil => nofun
  | cons name names ih =>
    have undivided : sep ∉ name.toList := by
      obtain ⟨first, others, all⟩ := List.exists_cons_of_ne_nil (Text.fields_ne_nil (· == sep) name.toList)
      have head := same
      rw [List.flatMap_cons, fieldsOf, all] at head
      obtain ⟨rfl, -⟩ := List.cons.inj head
      rw [String.toList_ofList]
      exact Path.undivided_of_mem_fields (all ▸ List.mem_cons_self)
    rw [List.flatMap_cons, Path.fieldsOf_of_undivided undivided] at same
    intro other member
    rcases List.mem_cons.mp member with rfl | member
    · exact undivided
    · exact ih (List.cons.inj same).2 other member

end Text

/-! ## Names of types -/

open Text (fields fieldsOf joined)

/-- A part of a binary name between dots, as every identifier is one. -/
structure IsSegment (name : String) : Prop where
  nonempty : name ≠ ""
  no_dot : '.' ∉ name.toList
  no_slash : '/' ∉ name.toList

instance (name : String) : Decidable (IsSegment name) :=
  decidable_of_iff (name ≠ "" ∧ '.' ∉ name.toList ∧ '/' ∉ name.toList)
    ⟨fun ⟨nonempty, no_dot, no_slash⟩ => ⟨nonempty, no_dot, no_slash⟩,
      fun segment => ⟨segment.nonempty, segment.no_dot, segment.no_slash⟩⟩

namespace MethodDescriptor

theorem fields_map_sourceChar (text : List Char) :
    fields (· == '.') (text.map sourceChar) =
      fields (fun c => sourceChar c == '.') text := by
  induction text with
  | nil => rfl
  | cons c text ih =>
    rw [List.map_cons, fields, fields, ih]
    split
    · rfl
    · next kept =>
      have same : sourceChar c = c := by
        unfold sourceChar at kept ⊢
        split at kept
        · exact absurd rfl kept
        · next plain => rw [if_neg plain]
      rw [same]

/-- The canonical name has the parts of every segment, one after another. -/
theorem fieldsOf_canonicalName {segments : List String} (some_segments : segments ≠ [])
    (proper : ∀ segment ∈ segments, IsSegment segment) :
    fieldsOf '.' (canonicalName (joined "." segments)) = segments.flatMap (fieldsOf '$') := by
  have part : ∀ segment ∈ segments, fields (fun c => sourceChar c == '.') segment.toList =
      fields (· == '$') segment.toList := by
    intro segment member
    have proper := proper segment member
    refine Text.fields_congr fun c inside => ?_
    have no_dot : c ≠ '.' := fun same => proper.no_dot (same ▸ inside)
    have no_slash : c ≠ '/' := fun same => proper.no_slash (same ▸ inside)
    by_cases dollar : c = '$'
    · subst dollar
      rfl
    · rw [sourceChar, if_neg (by simp [no_slash, dollar]), beq_false_of_ne no_dot,
        beq_false_of_ne dollar]
  rw [← String.ofList_toList (s := joined "." segments), canonicalName_ofList, fieldsOf,
    String.toList_ofList, fields_map_sourceChar, Path.toList_joined Text.toList_dot,
    Text.fields_intercalate (by decide) (by simpa using some_segments), List.flatMap_map, List.map_flatMap]
  refine List.flatMap_congr fun segment member => ?_
  rw [part segment member, fieldsOf]

end MethodDescriptor

namespace Interface

variable {packages : List String} {own : String}

/-- The names of a type in a package are those that the segments of its binary name give. -/
structure IsNamedBy (packages : List String) (own : String) (type : Interface) : Prop where
  package : type.package = joined "." packages
  simpleName : (fieldsOf '$' own).getLast? = some type.simpleName
  canonicalName : fieldsOf '.' type.canonicalName = packages.flatMap (fieldsOf '$') ++ fieldsOf '$' own

theorem isNamedBy_found {listing : Listing} (named : listing.name = joined "." (packages ++ [own]))
    (proper : ∀ segment ∈ packages ++ [own], IsSegment segment) (methods : List Method) (place : Option Path) :
    IsNamedBy packages own { (Hierarchy.found listing methods).type with codeSource := place } := by
  have segment := proper own (by simp)
  have cut : String.ofList (Text.beforeLast '.' listing.name.toList) = joined "." packages ∧
      Text.afterLast '.' listing.name.toList = own.toList := by
    by_cases some_packages : packages = []
    · subst some_packages
      have whole : listing.name.toList = own.toList := congrArg String.toList named
      rw [whole, Text.beforeLast_of_undivided segment.no_dot, Text.afterLast_of_undivided segment.no_dot]
      exact ⟨rfl, rfl⟩
    · have whole : listing.name.toList = (joined "." packages).toList ++ '.' :: own.toList := by
        rw [named, Path.joined_concat some_packages, String.toList_append, String.toList_append, List.append_assoc]
        rfl
      rw [whole, Text.beforeLast_append segment.no_dot, Text.afterLast_append segment.no_dot, String.ofList_toList]
      exact ⟨rfl, rfl⟩
  have some_name : listing.name ≠ "" := by
    intro none
    rw [none] at cut
    exact segment.nonempty (String.toList_inj.mp cut.2.symm)
  refine ⟨cut.1, ?_, ?_⟩
  · rw [fieldsOf, List.getLast?_map, Text.getLast?_fields, ← cut.2]
    rfl
  · change fieldsOf '.' (Hierarchy.found listing methods).type.canonicalName = _
    rw [Hierarchy.canonicalName_found some_name, named,
      MethodDescriptor.fieldsOf_canonicalName (by simp) proper, List.flatMap_append, List.flatMap_singleton]

namespace IsNamedBy

variable {type : Interface}

/-- The last part of the canonical name is the simple name. -/
theorem getLast?_canonicalName (named : IsNamedBy packages own type) :
    (fieldsOf '.' type.canonicalName).getLast? = some type.simpleName := by
  rw [named.canonicalName, List.getLast?_append, named.simpleName, Option.some_or]

/-- There is a package if there are segments of one. -/
theorem package_ne_empty_iff (named : IsNamedBy packages own type)
    (proper : ∀ segment ∈ packages, IsSegment segment) : type.package ≠ "" ↔ packages ≠ [] := by
  rw [named.package, ne_eq, not_iff_not]
  constructor
  · intro none
    by_contra some_packages
    have cut := Path.fieldsOf_joined Text.toList_dot some_packages fun segment member =>
      (proper segment member).no_dot
    rw [none] at cut
    exact (proper "" (cut ▸ List.mem_cons_self)).nonempty rfl
  · rintro rfl
    rfl

/-- If there is a package, the canonical name is the package and more behind a dot, exactly if no segment of the
package has a dollar sign in it. -/
theorem canonicalName_in_package (named : IsNamedBy packages own type)
    (proper : ∀ segment ∈ packages, IsSegment segment) :
    (type.package ≠ "" → ∃ rest, type.canonicalName = type.package ++ "." ++ rest) ↔
      ∀ segment ∈ packages, '$' ∉ segment.toList := by
  rw [named.package_ne_empty_iff proper, named.package]
  -- the canonical name falls into the parts of all segments; behind the package it has to fall into these segments
  have cut := named.canonicalName
  constructor
  · intro within
    by_cases some_packages : packages = []
    · rw [some_packages]
      nofun
    · obtain ⟨rest, whole⟩ := within some_packages
      rw [whole, Text.fieldsOf_append_dot, Path.fieldsOf_joined Text.toList_dot some_packages
        fun segment member => (proper segment member).no_dot] at cut
      exact Text.undivided_of_flatMap_fieldsOf cut.symm
  · intro undivided some_packages
    have some_own : fieldsOf '$' own ≠ [] := by
      intro none
      have last := named.simpleName
      rw [none] at last
      cases last
    rw [Text.flatMap_fieldsOf undivided] at cut
    refine ⟨joined "." (fieldsOf '$' own), ?_⟩
    rw [← Path.joined_append some_packages some_own, ← cut, Text.joined_fieldsOf "." Text.toList_dot]

end IsNamedBy

/-- The clauses of a source name one package: what is implemented is named as a type in the package of the
source. -/
def NamesOnePackage (type : Interface) (suffix : String) : Prop :=
  ∃ rest, Implementation.header type suffix =
    "package " ++ type.package ++ ";\n\n" ++ "public class " ++ Implementation.className type suffix ++
      " implements " ++ (type.package ++ "." ++ rest) ++ " \x7b\n"

theorem namesOnePackage_iff {type : Interface} (some_package : type.package ≠ "") (suffix : String) :
    NamesOnePackage type suffix ↔ ∃ rest, type.canonicalName = type.package ++ "." ++ rest := by
  have vacant : ¬ type.package.isEmpty = true := by simpa using some_package
  unfold NamesOnePackage Implementation.header
  rw [if_neg vacant]
  refine exists_congr fun rest => ?_
  rw [String.append_left_inj, String.append_right_inj]

end Interface

/-! ## What a disassembler describes -/

namespace Disassembler

open Interface

variable {packages : List String} {own : String}
variable {tool : Disassembler} {world : World} {name : String} {listing : Listing}

/-- However a type is described, its package is that of its binary name, and the last part of its canonical name is
its simple name. The canonical name is in the package, and the clauses of a source name one package, exactly if no
segment of the package has a dollar sign in it. -/
theorem introspector_names (known : (tool.known world).get name = .ok listing)
    (named : listing.name = joined "." (packages ++ [own]))
    (proper : ∀ segment ∈ packages ++ [own], IsSegment segment) :
    Ends (tool.introspector name) world fun r _ =>
      (tool.IsDescribable world listing.name → ∃ type, r = .ok type) ∧
      ∀ type, r = .ok type → IsNamedBy packages own type ∧
        (fieldsOf '.' type.canonicalName).getLast? = some type.simpleName ∧
        ((type.package ≠ "" → ∃ rest, type.canonicalName = type.package ++ "." ++ rest) ↔
          ∀ segment ∈ packages, '$' ∉ segment.toList) ∧
        ∀ suffix, (type.package ≠ "" → NamesOnePackage type suffix) ↔
          ∀ segment ∈ packages, '$' ∉ segment.toList := by
  have made := introspector_made known
  have describes := introspector_describes known
  obtain ⟨r, after, run⟩ := Ends.exists_run (tool.introspector name) world
  rw [Ends.of_run run] at made ⊢
  refine ⟨fun describable => ?_, fun type done => ?_⟩
  · have done := describes describable
    rwa [Ends.of_run run] at done
  · obtain ⟨methods, place, rfl⟩ := made.2 type done
    have names := isNamedBy_found named proper methods place
    have in_package := names.canonicalName_in_package fun segment member =>
      proper segment (List.mem_append_left _ member)
    refine ⟨names, names.getLast?_canonicalName, in_package, fun suffix => ?_⟩
    rw [← in_package]
    exact forall_congr' fun some_package => namesOnePackage_iff some_package suffix

/-- What a tool prints for an empty interface. -/
def emptyText (name : String) : String := "public interface " ++ name ++ "\n\x7b\n\x7d\n"

/-- A tool that lists an empty interface. -/
def lister (name : String) : Disassembler where
  command := "javap"
  classpath := []
  run _ := .ok ⟨0, emptyText name, ""⟩
  names := [name]

theorem lists_lister (name : String) : (lister name).Lists untouched name (emptyText name) :=
  ⟨rfl, List.mem_cons_self, _, rfl, rfl, rfl⟩

theorem introspector_names_nested : (∀ segment ∈ ["p", "q"] ++ ["A$B"], IsSegment segment) ∧
    ((lister "p.q.A$B").known untouched).get "p.q.A$B" = .ok ⟨"p.q.A$B", "interface", [], [], [], []⟩ ∧
    "p.q.A$B" = joined "." (["p", "q"] ++ ["A$B"]) ∧
    Ends ((lister "p.q.A$B").introspector "p.q.A$B") untouched fun r _ => ∃ type, r = .ok type ∧
      type.package = "p.q" ∧ type.simpleName = "B" ∧ fieldsOf '.' type.canonicalName = ["p", "q", "A", "B"] ∧
      NamesOnePackage type "Impl" := by
  have proper : ∀ segment ∈ ["p", "q"] ++ ["A$B"], IsSegment segment := by decide
  have read : Listing.read (emptyText "p.q.A$B") = .ok ⟨"p.q.A$B", "interface", [], [], [], []⟩ := by
    decide +kernel
  have known := (lists_lister "p.q.A$B").get_known read (by decide)
  have described := introspector_names known (show "p.q.A$B" = joined "." (["p", "q"] ++ ["A$B"]) by decide) proper
  refine ⟨proper, known, by decide, described.mono fun r after ends => ?_⟩
  obtain ⟨describes, names⟩ := ends
  obtain ⟨type, done⟩ := describes (isDescribable_of_alone known rfl rfl rfl rfl)
  obtain ⟨named, last, -, clauses⟩ := names type done
  have package : type.package = "p.q" := named.package
  have simple : type.simpleName = "B" :=
    Option.some.inj (named.simpleName.symm.trans (show (fieldsOf '$' "A$B").getLast? = some "B" by decide))
  refine ⟨type, done, package, simple, named.canonicalName.trans (by decide), ?_⟩
  exact (clauses "Impl").mpr (by decide) (by simp [package])

theorem dollared_package_differs : Ends ((lister "a$b.C").introspector "a$b.C") untouched fun r _ =>
    ∃ type, r = .ok type ∧ type.package = "a$b" ∧ type.simpleName = "C" ∧ type.canonicalName = "a.b.C" ∧
      ¬ (∃ rest, type.canonicalName = type.package ++ "." ++ rest) ∧
      Implementation.header type "Impl" = "package a$b;\n\npublic class CImpl implements a.b.C \x7b\n" := by
  have read : Listing.read (emptyText "a$b.C") = .ok ⟨"a$b.C", "interface", [], [], [], []⟩ := by
    decide +kernel
  have known := (lists_lister "a$b.C").get_known read (by decide)
  have describable : (lister "a$b.C").IsDescribable untouched "a$b.C" :=
    isDescribable_of_alone known rfl rfl rfl rfl
  refine ((introspector_describes known describable).and (introspector_made known)).mono fun r after ends => ?_
  obtain ⟨⟨type, done⟩, -, made⟩ := ends
  obtain ⟨methods, place, same⟩ := made type done
  have names : IsNamedBy ["a$b"] "C" type := same ▸ isNamedBy_found (by decide) (by decide) methods place
  have package : type.package = "a$b" := names.package
  have simple : type.simpleName = "C" :=
    Option.some.inj (names.simpleName.symm.trans (show (fieldsOf '$' "C").getLast? = some "C" by decide))
  have canonical : type.canonicalName = "a.b.C" := by
    rw [← Text.joined_fieldsOf "." Text.toList_dot type.canonicalName, names.canonicalName]
    decide
  refine ⟨type, done, package, simple, canonical, fun within => ?_, ?_⟩
  · exact (names.canonicalName_in_package (by decide)).mp (fun _ => within) "a$b" (by simp) (by decide)
  · rw [Implementation.header, Implementation.className, package, simple, canonical]
    decide

end Disassembler
end JavaStubs

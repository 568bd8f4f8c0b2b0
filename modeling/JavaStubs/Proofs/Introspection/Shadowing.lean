import Mathlib.Data.List.Basic
import JavaStubs.Proofs.Introspection.Description

/-!
Which declaration is reported for a key that several types of a hierarchy declare. It is that of the
first type met: a declaration is shadowed exactly if another type that declares the key is met
before its own. An interface that extends another one shadows its declarations if it lies on every
way there, and may fail to if the other one is listed before it.
-/
namespace JavaStubs.Hierarchy

/-- A type declares a method with a key. -/
def Declares (listings : Listings) (key : String × List String) (name : String) : Prop :=
  ∃ method ∈ declared listings name, method.key = key

instance (listings : Listings) (key : String × List String) (name : String) :
    Decidable (Declares listings key name) :=
  inferInstanceAs (Decidable (∃ method ∈ declared listings name, method.key = key))

/-- The type whose declaration is reported for a key: the first one met that declares it. -/
def declarer (listings : Listings) (order : List String) (key : String × List String) :
    Option String :=
  order.find? fun name => Declares listings key name

/-- Of the methods that types declare, the first one with a key is that of the first type with
one. -/
theorem find?_flatMap_declared {listings : Listings} {order : List String}
    {key : String × List String} {name : String} (first : declarer listings order key = some name) :
    (order.flatMap (declared listings)).find? (·.key = key) =
      (declared listings name).find? (·.key = key) := by
  obtain ⟨declares, front, back, rfl, before⟩ := List.find?_eq_some_iff_append.mp first
  have none_before : (front.flatMap (declared listings)).find? (·.key = key) = none := by
    rw [List.find?_eq_none]
    intro method member
    obtain ⟨other, met, listed⟩ := List.mem_flatMap.mp member
    have not : ¬ Declares listings key other := by simpa using before other met
    simpa using fun same => not ⟨method, listed, same⟩
  have here : ((declared listings name).find? (·.key = key)).isSome := by
    obtain ⟨method, listed, same⟩ : Declares listings key name := by simpa using declares
    exact List.find?_isSome.mpr ⟨method, listed, by simpa using same⟩
  obtain ⟨method, found⟩ := Option.isSome_iff_exists.mp here
  simp [List.flatMap_append, List.find?_append, none_before, found]

/-- A declaration is not the reported one exactly if a type with another one is met before. -/
theorem declarer_ne_iff {listings : Listings} {order : List String} {key : String × List String}
    {name : String} (nodup : order.Nodup) (met : name ∈ order) (declares : Declares listings key name) :
    declarer listings order key ≠ some name ↔
      ∃ other, Declares listings key other ∧ Precedes order other name := by
  constructor
  · intro shadowed
    by_contra nobody
    obtain ⟨front, back, rfl⟩ := List.append_of_mem met
    refine shadowed (List.find?_eq_some_iff_append.mpr ⟨by simpa using declares, front, back, rfl, ?_⟩)
    intro other before
    simpa using fun also => nobody ⟨other, also, front, back, rfl, before⟩
  · rintro ⟨other, also, front, back, rfl, before⟩ first
    obtain ⟨_, front', back', same, none_before⟩ := List.find?_eq_some_iff_append.mp first
    obtain ⟨_, nodup_back, apart⟩ := List.nodup_append'.mp nodup
    have absent : name ∉ front := fun h => apart h List.mem_cons_self
    have absent' : name ∉ back := (List.nodup_cons.mp nodup_back).1
    obtain ⟨rfl, -, -⟩ := (List.append_cons_inj_of_notMem absent absent').mp same
    simpa [also] using none_before other before

end JavaStubs.Hierarchy

namespace JavaStubs.Disassembler

open Hierarchy

/-- Of a type whose hierarchy can be read, the method that is reported for a key is the declaration of
the first type met that declares it. So a declaration is shadowed exactly if a type with another one
is met before its own, in particular if such a type lies on every way to its own. -/
theorem declaration_shadowed_iff (tool : Disassembler) (world : World) (target : String)
    (readable : ∀ name, Reaches (below (tool.known world)) target name →
      IsReadable (tool.known world) name) :
    ∃ (order : List String) (type : Interface),
      Visits (below (tool.known world)) [] [target] order ∧ tool.Describes world target type ∧
      ∀ key base, Reaches (below (tool.known world)) target base →
        Declares (tool.known world) key base →
        (∃ name, declarer (tool.known world) order key = some name ∧
          type.methods.find? (·.key = key) =
            (declared (tool.known world) name).find? (·.key = key)) ∧
        (declarer (tool.known world) order key ≠ some base ↔
          ∃ other, Declares (tool.known world) key other ∧ Precedes order other base) ∧
        ∀ derived, Declares (tool.known world) key derived → derived ≠ base →
          ¬ ReachesWithout (below (tool.known world)) derived target base →
          declarer (tool.known world) order key ≠ some base := by
  obtain ⟨order, described, run, named, collected⟩ := describe_isCollected readable
  have ends := introspector_ends run named collected
    (answered_of_readable readable collected.mem_iff)
  refine ⟨order, described.type, collected.visits, ends.mono fun _ _ h => h.2, ?_⟩
  intro key base path declares
  have met : base ∈ order := (collected.mem_iff base).mpr path
  have shadowed_iff := declarer_ne_iff collected.nodup met declares
  refine ⟨?_, shadowed_iff, ?_⟩
  · have some : (declarer (tool.known world) order key).isSome :=
      List.find?_isSome.mpr ⟨base, met, by simpa using declares⟩
    obtain ⟨name, first⟩ := Option.isSome_iff_exists.mp some
    refine ⟨name, first, ?_⟩
    rw [collected.firstOfEachKey.find?, find?_flatMap_declared first]
  · intro derived also different only
    exact shadowed_iff.mpr ⟨derived, also,
      collected.visits.precedes_of_not_reachesWithout met (Ne.symm different) only⟩

/-! ### A base listed before an interface that extends it -/

/-- An interface `T` that extends a base `B` and, listed behind it, an interface `D` that extends `B`
as well and gives the method of `B` a body. -/
def diamond : Disassembler where
  command := "javap"
  classpath := []
  run arguments :=
    if arguments.getLast? = some "T" then .ok ⟨0, "interface T extends B, D\n\x7b\n\x7d\n", ""⟩
    else if arguments.getLast? = some "B" then
      .ok ⟨0, "interface B\n\x7b\n  int m();\n    descriptor: ()I\n    flags: ACC_ABSTRACT\n\x7d\n", ""⟩
    else if arguments.getLast? = some "D" then
      .ok ⟨0, "interface D extends B\n\x7b\n  int m();\n    descriptor: ()I\n    flags:\n\x7d\n", ""⟩
    else .ok ⟨1, "", "Error: class not found"⟩
  names := ["T", "B", "D"]

private theorem below_diamond : below (diamond.known untouched) "T" = ["B", "D"] ∧
    below (diamond.known untouched) "D" = ["B"] ∧ below (diamond.known untouched) "B" = [] := by
  decide +kernel

private theorem readable_diamond (name : String)
    (path : Reaches (below (diamond.known untouched)) "T" name) :
    IsReadable (diamond.known untouched) name := by
  obtain ⟨top, derived, base⟩ := below_diamond
  have one : name = "T" ∨ name = "B" ∨ name = "D" := by
    induction path with
    | refl => exact Or.inl rfl
    | tail _ edge ih =>
      rcases ih with rfl | rfl | rfl
      · exact Or.inr (by simpa [LeadsTo, top] using edge)
      · simp [LeadsTo, base] at edge
      · exact Or.inr (Or.inl (by simpa [LeadsTo, derived] using edge))
  rcases one with rfl | rfl | rfl <;> decide +kernel

theorem declaration_shadowed_iff_diamond :
    (∀ name, Reaches (below (diamond.known untouched)) "T" name →
      IsReadable (diamond.known untouched) name) ∧
    ∃ (order : List String) (type : Interface),
      Visits (below (diamond.known untouched)) [] ["T"] order ∧
      diamond.Describes untouched "T" type ∧
      ∀ key base, Reaches (below (diamond.known untouched)) "T" base →
        Declares (diamond.known untouched) key base →
        (∃ name, declarer (diamond.known untouched) order key = some name ∧
          type.methods.find? (·.key = key) =
            (declared (diamond.known untouched) name).find? (·.key = key)) ∧
        (declarer (diamond.known untouched) order key ≠ some base ↔
          ∃ other, Declares (diamond.known untouched) key other ∧ Precedes order other base) ∧
        ∀ derived, Declares (diamond.known untouched) key derived → derived ≠ base →
          ¬ ReachesWithout (below (diamond.known untouched)) derived "T" base →
          declarer (diamond.known untouched) order key ≠ some base :=
  ⟨readable_diamond, declaration_shadowed_iff diamond untouched "T" readable_diamond⟩

private theorem visits_diamond :
    Visits (below (diamond.known untouched)) [] ["T"] ["T", "B", "D"] := by
  obtain ⟨top, derived, base⟩ := below_diamond
  have inside_base : Visits (below (diamond.known untouched)) ["B", "T"]
      (below (diamond.known untouched) "B") [] := by
    rw [base]
    exact .done _
  have inside_derived : Visits (below (diamond.known untouched)) ["D", "B", "T"]
      (below (diamond.known untouched) "D") [] := by
    rw [derived]
    exact .skip (by simp) (.done _)
  have inside_top : Visits (below (diamond.known untouched)) ["T"]
      (below (diamond.known untouched) "T") ["B", "D"] := by
    rw [top]
    exact .enter (by simp) inside_base (.enter (by simp) inside_derived (.done _))
  exact .enter (by simp) inside_top (.done _)

/-- The body that `D` gives to the method does not shadow the declaration of `B`, although `D` extends
`B`: the method is reported as abstract. -/
theorem base_reported_diamond :
    (below (diamond.known untouched) "T" = ["B", "D"] ∧
      below (diamond.known untouched) "D" = ["B"] ∧ below (diamond.known untouched) "B" = []) ∧
    declared (diamond.known untouched) "B" = [⟨"m", ⟨"int"⟩, [], true⟩] ∧
    declared (diamond.known untouched) "D" = [⟨"m", ⟨"int"⟩, [], false⟩] ∧
    ∃ type, diamond.Describes untouched "T" type ∧
      type.methods.find? (·.key = ("m", [])) = some ⟨"m", ⟨"int"⟩, [], true⟩ := by
  refine ⟨below_diamond, by decide +kernel, by decide +kernel, ?_⟩
  obtain ⟨order, described, run, named, collected⟩ := describe_isCollected readable_diamond
  have ends := introspector_ends run named collected
    (answered_of_readable readable_diamond collected.mem_iff)
  refine ⟨described.type, ends.mono fun _ _ h => h.2, ?_⟩
  rw [collected.firstOfEachKey.find?, collected.visits.unique visits_diamond]
  decide +kernel

end JavaStubs.Disassembler

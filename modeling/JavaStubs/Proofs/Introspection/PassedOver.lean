import JavaStubs.Proofs.Introspection.Remembering
import JavaStubs.Proofs.Introspection.Shadowing

/-!
Members that are passed over. A static, private, synthetic or bridge member of a type is no method of its
description, and it shadows none either: a type is described as if such members were not listed. So a method
that a superinterface declares is reported, although an interface below has a bridge with its key, unless
another declaration that counts is met before.
-/
namespace JavaStubs.Hierarchy

variable {a b listings : Listings} {name : String} {order : List String} {key : String × List String}

/-! ## Listings without the members that are passed over -/

/-- A listing without the members that are passed over. -/
def eligibleOnly (listing : Listing) : Listing :=
  { listing with members := listing.members.filter (Concerns ·) }

/-- Two lots of listings differ in nothing but members that are passed over. -/
def AgreeOnEligible (a b : Listings) : Prop :=
  ∀ name, (a.get name).map eligibleOnly = (b.get name).map eligibleOnly

theorem AgreeOnEligible.error (agree : AgreeOnEligible a b) {refusal : Refusal}
    (refused : a.get name = .error refusal) : b.get name = .error refusal := by
  have same := agree name
  rw [refused] at same
  cases other : b.get name with
  | error refusal' =>
    rw [other] at same
    exact same.symm
  | ok listing =>
    rw [other] at same
    cases same

theorem AgreeOnEligible.ok (agree : AgreeOnEligible a b) {listing : Listing} (known : a.get name = .ok listing) :
    ∃ other, b.get name = .ok other ∧ eligibleOnly listing = eligibleOnly other := by
  have same := agree name
  rw [known] at same
  cases other : b.get name with
  | error refusal =>
    rw [other] at same
    cases same
  | ok listing' =>
    rw [other] at same
    exact ⟨listing', rfl, Except.ok.inj same⟩

theorem methodsOf_eligibleOnly (type : String) (listing : Listing) :
    methodsOf type (eligibleOnly listing) = methodsOf type listing := by
  simp [methodsOf, eligibleOnly, List.filter_filter, isEligible_eq]

/-- Listings that differ in nothing but such members say the same of a type. -/
theorem says_of_eligibleOnly {listing other : Listing} (same : eligibleOnly listing = eligibleOnly other) :
    (∀ type, methodsOf type listing = methodsOf type other) ∧ parents listing = parents other ∧
      listing.name = other.name ∧ ∀ methods, found listing methods = found other methods := by
  refine ⟨fun type => ?_, ?_, ?_, fun methods => ?_⟩
  · rw [← methodsOf_eligibleOnly, same, methodsOf_eligibleOnly]
  · change parents (eligibleOnly listing) = parents (eligibleOnly other)
    rw [same]
  · change (eligibleOnly listing).name = (eligibleOnly other).name
    rw [same]
  · change found (eligibleOnly listing) methods = found (eligibleOnly other) methods
    rw [same]

/-- A walk meets the same methods, and asks for the same names. -/
theorem walk_of_agree (agree : AgreeOnEligible a b) (seen pending : List String) :
    walk a seen pending = walk b seen pending := by
  fun_induction walk a seen pending with
  | case1 seen => rw [walk]
  | case2 seen name pending old ih => rw [ih, walk.eq_2 b, dif_pos old]
  | case3 seen name pending new refusal refused =>
    have refused' := agree.error refused
    rw [walk.eq_2 b, dif_neg new]
    split <;> simp_all
  | case4 seen name pending new listing known cause undecoded =>
    obtain ⟨other, known', same⟩ := agree.ok known
    rw [(says_of_eligibleOnly same).1] at undecoded
    rw [walk.eq_2 b, dif_neg new]
    split <;> simp_all
  | case5 seen name pending new listing known methods read asked others walked ih =>
    obtain ⟨other, known', same⟩ := agree.ok known
    obtain ⟨methods_same, parents_same, -⟩ := says_of_eligibleOnly same
    rw [methods_same] at read
    rw [parents_same] at ih
    rw [walk.eq_2 b, dif_neg new]
    split <;> simp_all

theorem describe_of_agree (agree : AgreeOnEligible a b) (name : String) : describe a name = describe b name := by
  unfold describe
  split
  · next refusal refused => rw [agree.error refused]
  · next listing known =>
    obtain ⟨other, known', same⟩ := agree.ok known
    obtain ⟨-, -, named, found_same⟩ := says_of_eligibleOnly same
    have found_eq : found listing = found other := funext found_same
    rw [known', named, walk_of_agree agree, found_eq]

theorem below_of_agree (agree : AgreeOnEligible a b) : below a = below b := by
  funext name
  cases known : a.get name with
  | ok listing =>
    obtain ⟨other, known', same⟩ := agree.ok known
    rw [below_eq known, below_eq known', (says_of_eligibleOnly same).2.1]
  | error refusal => simp only [below, known, agree.error known]

theorem isReadable_of_agree (agree : AgreeOnEligible a b) (readable : IsReadable a name) : IsReadable b name := by
  obtain ⟨listing, known, named, decoded⟩ := readable
  obtain ⟨other, known', same⟩ := agree.ok known
  refine ⟨other, known', (says_of_eligibleOnly same).2.2.1 ▸ named, fun member inside concerns => ?_⟩
  have members : listing.members.filter (Concerns ·) = other.members.filter (Concerns ·) :=
    congrArg Listing.members same
  have inside' : member ∈ listing.members.filter (Concerns ·) :=
    members ▸ List.mem_filter.mpr ⟨inside, decide_eq_true concerns⟩
  exact decoded member (List.mem_filter.mp inside').1 concerns

/-! ## Inherited declarations -/

/-- The reported method of a key is abstract, and the declaration of a type. -/
def ReportsFrom (listings : Listings) (order : List String) (methods : List Method)
    (key : String × List String) (base : String) : Prop :=
  declarer listings order key = some base ∧
    ∃ method, methods.find? (·.key = key) = some method ∧ method.isAbstract = true

/-- The declaration of a type for a key, the first one if there are more, is abstract. -/
def DeclaresAbstract (listings : Listings) (key : String × List String) (base : String) : Prop :=
  ∃ method, (declared listings base).find? (·.key = key) = some method ∧ method.isAbstract = true

theorem DeclaresAbstract.declares (declares : DeclaresAbstract listings key name) : Declares listings key name := by
  obtain ⟨method, found, -⟩ := declares
  exact ⟨method, List.mem_of_find?_eq_some found, by simpa using List.find?_some found⟩

/-- The key of a member, if it is a method. -/
def keyOf? (member : Member) : Option (String × List String) :=
  (MethodDescriptor.decode member.descriptor).toOption.map fun (parameters, _) =>
    (member.name, parameters.map TypeName.name)

/-- A member that concerns a class is a declaration of the type that lists it. -/
theorem declares_of_concerns {listing : Listing} {member : Member} (readable : IsReadable listings name)
    (known : listings.get name = .ok listing) (inside : member ∈ listing.members) (concerns : Concerns member)
    (keyed : keyOf? member = some key) : Declares listings key name := by
  obtain ⟨method, declares, parameters, returned, decoded, same⟩ :=
    exists_declared readable known inside concerns
  refine ⟨method, declares, ?_⟩
  rw [keyOf?, decoded] at keyed
  exact same.trans (Option.some.inj keyed)

/-- An abstract declaration of a type that is met is reported exactly if no type with a declaration of the key
is met before. -/
theorem reportsFrom_iff {methods : List Method} (nodup : order.Nodup) (met : name ∈ order)
    (first : FirstOfEachKey (order.flatMap (declared listings)) methods) :
    ReportsFrom listings order methods key name ↔ DeclaresAbstract listings key name ∧
      ∀ other, Declares listings key other → ¬ Precedes order other name := by
  constructor
  · rintro ⟨declarer_eq, method, found, is_abstract⟩
    have here : (declared listings name).find? (·.key = key) = some method := by
      rw [← find?_flatMap_declared declarer_eq, ← first.find?, found]
    have declares : DeclaresAbstract listings key name := ⟨method, here, is_abstract⟩
    refine ⟨declares, fun other also before => ?_⟩
    exact (declarer_ne_iff nodup met declares.declares).mpr ⟨other, also, before⟩ declarer_eq
  · rintro ⟨⟨method, here, is_abstract⟩, nobody⟩
    have declares : Declares listings key name := DeclaresAbstract.declares ⟨method, here, is_abstract⟩
    have declarer_eq : declarer listings order key = some name := by
      by_contra shadowed
      obtain ⟨other, also, before⟩ := (declarer_ne_iff nodup met declares).mp shadowed
      exact nobody other also before
    refine ⟨declarer_eq, method, ?_, is_abstract⟩
    rw [first.find?, find?_flatMap_declared declarer_eq, here]

end JavaStubs.Hierarchy

namespace JavaStubs.Disassembler

open Hierarchy

/-- A type of which everything can be read is described alike by every tool whose listings differ in nothing but
members that are passed over. What is reported of a superinterface of one of its types is the abstract
declaration that no other one is met before; so a member of that type that is not passed over shadows the
declarations of its key, if it lies on every way to them. -/
theorem inherited_reported_iff (tool : Disassembler) (world : World) (target : String)
    (readable : ∀ name, Reaches (below (tool.known world)) target name → IsReadable (tool.known world) name) :
    ∃ (order : List String) (type : Interface),
      Visits (below (tool.known world)) [] [target] order ∧
      (∀ other : Disassembler, other.classpath = tool.classpath →
        AgreeOnEligible (tool.known world) (other.known world) → other.Describes world target type) ∧
      ∀ derived base key, Reaches (below (tool.known world)) target derived →
        Relation.TransGen (LeadsTo (below (tool.known world))) derived base →
        (ReportsFrom (tool.known world) order type.methods key base ↔
          DeclaresAbstract (tool.known world) key base ∧
            ∀ other, Declares (tool.known world) key other → ¬ Precedes order other base) ∧
        ∀ listing member, (tool.known world).get derived = .ok listing → member ∈ listing.members →
          Concerns member → keyOf? member = some key → base ≠ derived →
          ¬ ReachesWithout (below (tool.known world)) derived target base →
          ¬ ReportsFrom (tool.known world) order type.methods key base := by
  obtain ⟨order, described, run, named, collected⟩ := describe_isCollected readable
  refine ⟨order, described.type, collected.visits, ?_, ?_⟩
  · intro other same_path agree
    have readable' : ∀ name, Reaches (below (other.known world)) target name →
        IsReadable (other.known world) name := by
      rw [← below_of_agree agree]
      exact fun name path => isReadable_of_agree agree (readable name path)
    obtain ⟨order', described', run', named', collected'⟩ := describe_isCollected readable'
    obtain ⟨-, same⟩ := Prod.mk.inj (run.symm.trans ((describe_of_agree agree target).trans run'))
    obtain rfl := Except.ok.inj same
    have answered := answered_of_readable readable' collected'.mem_iff
    exact (introspector_ends run' named' collected' answered).mono fun _ _ ends => ends.2
  · intro derived base key path inherits
    have met : base ∈ order := (collected.mem_iff base).mpr (path.trans inherits.to_reflTransGen)
    have reported_iff := @reportsFrom_iff _ _ _ key _ collected.nodup met collected.firstOfEachKey
    refine ⟨reported_iff, fun listing member known inside eligible keyed different only reported => ?_⟩
    have declares := declares_of_concerns (readable derived path) known inside eligible keyed
    have before := collected.visits.precedes_of_not_reachesWithout met different only
    exact (reported_iff.mp reported).2 derived declares before

/-! ### An interface with a method of the one that it extends -/

/-- An interface `J` that extends `I` and has a member with the key of a method of `I`, with given flags. -/
def overriding (flags : String) : Disassembler where
  command := "javap"
  classpath := []
  run arguments :=
    if arguments.getLast? = some "J" then .ok ⟨0, "interface J extends I\n\x7b\n  void put(Object);\n" ++
      "    descriptor: (LObject;)V\n    flags: " ++ flags ++ "\n\x7d\n", ""⟩
    else if arguments.getLast? = some "I" then .ok ⟨0, "interface I\n\x7b\n  void put(Object);\n" ++
      "    descriptor: (LObject;)V\n    flags: ACC_ABSTRACT\n\x7d\n", ""⟩
    else .ok ⟨1, "", "Error: class not found"⟩
  names := ["J", "I"]

def derivedListing (flag : String) : Listing := ⟨"J", "interface", [], ["I"], [⟨"put", "(LObject;)V", [flag]⟩], []⟩

def baseListing : Listing := ⟨"I", "interface", [], [], [⟨"put", "(LObject;)V", ["ACC_ABSTRACT"]⟩], []⟩

def baseMethod : Method := ⟨"put", ⟨"void"⟩, [⟨⟨"Object"⟩, "arg0"⟩], true⟩

section
variable {listings : Listings} {flag : String}
  (known : listings.get "J" = .ok (derivedListing flag) ∧ listings.get "I" = .ok baseListing)
include known

private theorem leads_overriding : LeadsTo (below listings) "J" "I" := by
  rw [LeadsTo, below, known.1]
  exact List.mem_cons_self

private theorem eq_of_reaches {name : String} (path : Reaches (below listings) "J" name) :
    name = "J" ∨ name = "I" := by
  have derived : below listings "J" = ["I"] := by
    rw [below, known.1]
    rfl
  have base : below listings "I" = [] := by
    rw [below, known.2]
    rfl
  induction path with
  | refl => exact .inl rfl
  | tail _ edge ih =>
    rcases ih with rfl | rfl
    · exact .inr (by simpa [LeadsTo, derived] using edge)
    · simp [LeadsTo, base] at edge

private theorem readable_overriding (name : String) (path : Reaches (below listings) "J" name) :
    IsReadable listings name := by
  have decoded : ∃ types, MethodDescriptor.decode "(LObject;)V" = .ok types :=
    ⟨_, eq_ok_of_toOption (by decide +kernel : _ = some ([⟨"Object"⟩], ⟨"void"⟩))⟩
  rcases eq_of_reaches known path with rfl | rfl
  · exact ⟨_, known.1, rfl, fun member inside _ => List.mem_singleton.mp inside ▸ decoded⟩
  · exact ⟨_, known.2, rfl, fun member inside _ => List.mem_singleton.mp inside ▸ decoded⟩

end

/-- A body that is no bridge shadows the declaration above. -/
theorem inherited_reported_iff_overriding :
    (∀ name, Reaches (below ((overriding "ACC_PUBLIC").known untouched)) "J" name →
      IsReadable ((overriding "ACC_PUBLIC").known untouched) name) ∧
    ∃ order type, (overriding "ACC_PUBLIC").Describes untouched "J" type ∧
      ¬ ReportsFrom ((overriding "ACC_PUBLIC").known untouched) order type.methods ("put", ["Object"]) "I" := by
  have known : ((overriding "ACC_PUBLIC").known untouched).get "J" = .ok (derivedListing "ACC_PUBLIC") ∧
      ((overriding "ACC_PUBLIC").known untouched).get "I" = .ok baseListing :=
    ⟨eq_ok_of_toOption (by decide +kernel), eq_ok_of_toOption (by decide +kernel)⟩
  have only : ¬ ReachesWithout (below ((overriding "ACC_PUBLIC").known untouched)) "J" "J" "I" := fun path => by
    rcases path.cases_head with same | ⟨next, ⟨-, other⟩, -⟩
    · exact absurd same (by decide)
    · exact other rfl
  have readable := readable_overriding known
  obtain ⟨order, type, visits, describes, inherited⟩ := inherited_reported_iff _ untouched "J" readable
  exact ⟨readable, order, type, describes _ rfl fun _ => rfl,
    (inherited "J" "I" ("put", ["Object"]) .refl (.single (leads_overriding known))).2 _ _ known.1
      List.mem_cons_self (by decide +kernel) (by decide +kernel) (by decide) only⟩

/-- A bridge does not: the abstract declaration above it is reported. -/
theorem bridge_shadows_nothing :
    ((overriding "ACC_BRIDGE").known untouched).get "J" = .ok (derivedListing "ACC_BRIDGE") ∧
    (∀ member ∈ (derivedListing "ACC_BRIDGE").members, keyOf? member = some ("put", ["Object"]) ∧
      "ACC_STATIC" ∉ member.flags ∧ "ACC_PRIVATE" ∉ member.flags) ∧
    LeadsTo (below ((overriding "ACC_BRIDGE").known untouched)) "J" "I" ∧
    ∃ order type, (overriding "ACC_BRIDGE").Describes untouched "J" type ∧
      ReportsFrom ((overriding "ACC_BRIDGE").known untouched) order type.methods ("put", ["Object"]) "I" := by
  have known : ((overriding "ACC_BRIDGE").known untouched).get "J" = .ok (derivedListing "ACC_BRIDGE") ∧
      ((overriding "ACC_BRIDGE").known untouched).get "I" = .ok baseListing :=
    ⟨eq_ok_of_toOption (by decide +kernel), eq_ok_of_toOption (by decide +kernel)⟩
  have edge := leads_overriding known
  obtain ⟨order, described, run, named, collected⟩ := describe_isCollected (readable_overriding known)
  have ends := introspector_ends run named collected
    (answered_of_readable (readable_overriding known) collected.mem_iff)
  refine ⟨known.1, by decide +kernel, edge, order, described.type, ends.mono fun _ _ h => h.2, ?_⟩
  have met : "I" ∈ order := (collected.mem_iff "I").mpr (.single edge)
  have base : (baseListing.members.filter (Concerns ·)).filterMap declaration? = [baseMethod] := by
    decide +kernel
  have derived : ((derivedListing "ACC_BRIDGE").members.filter (Concerns ·)).filterMap declaration? = [] := by
    decide +kernel
  refine (reportsFrom_iff collected.nodup met collected.firstOfEachKey).mpr ⟨⟨baseMethod, ?_, rfl⟩, ?_⟩
  · rw [declared, known.2]
    dsimp only
    rw [base]
    rfl
  · rintro other ⟨method, declares, -⟩ ⟨front, back, rfl, before⟩
    have path := (collected.mem_iff other).mp (List.mem_append_left _ before)
    rcases eq_of_reaches known path with rfl | rfl
    · rw [declared, known.1] at declares
      dsimp only at declares
      rw [derived] at declares
      cases declares
    · exact (List.nodup_append'.mp collected.nodup).2.2 before List.mem_cons_self

end JavaStubs.Disassembler

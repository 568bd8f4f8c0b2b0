import JavaStubs.Introspection.Disassembler
import JavaStubs.Proofs.Introspection.Visits
import JavaStubs.Proofs.Jobs

/-!
Descriptions by a disassembler. Of the types that can be reached through interfaces each is met
once, in the order of a depth-first visit, which is the order in which `walk` meets them; `describe` reports of
the methods that they declare the first one for each key in that order, and the disassembler is run once for
each of them whose listing is not kept.
-/
namespace JavaStubs.Hierarchy

/-! ## The hierarchy as a graph -/

/-- The types that are followed up from a type: the supertypes in its listing, as long as that is the listing
of an interface. -/
def below (listings : Listings) (name : String) : List String :=
  match listings.get name with
  | .ok listing => if listing.isInterface then listing.supertypes else []
  | .error _ => []

theorem below_eq {listings : Listings} {name : String} {listing : Listing}
    (known : listings.get name = .ok listing) : below listings name = parents listing := by
  rw [below, known, parents]

/-- A member that a class has to define or inherits: it is neither static nor private, and no compiler made it. -/
def Concerns (member : Member) : Prop :=
  "ACC_STATIC" ∉ member.flags ∧ "ACC_SYNTHETIC" ∉ member.flags ∧ "ACC_BRIDGE" ∉ member.flags ∧
    "ACC_PRIVATE" ∉ member.flags

instance (member : Member) : Decidable (Concerns member) :=
  inferInstanceAs (Decidable (_ ∧ _ ∧ _ ∧ _))

theorem isEligible_eq : isEligible = fun member => decide (Concerns member) := by
  funext member
  rw [Bool.eq_iff_iff, decide_eq_true_iff]
  simp [isEligible, passedOver, Concerns]

/-- The method that a member with a method descriptor is. -/
def declaration? (member : Member) : Option Method :=
  match MethodDescriptor.decode member.descriptor with
  | .ok (types, returned) => some
    { name := member.name
      returnType := returned
      parameters := types.mapIdx fun place type => ⟨type, "arg" ++ toString place⟩
      isAbstract := "ACC_ABSTRACT" ∈ member.flags }
  | .error _ => none

/-- The methods that a type declares, in the order of its listing. -/
def declared (listings : Listings) (name : String) : List Method :=
  match listings.get name with
  | .ok listing => (listing.members.filter (Concerns ·)).filterMap declaration?
  | .error _ => []

/-- A name is answered by a listing of its own, in which every member that concerns a class has a method
descriptor. -/
def IsReadable (listings : Listings) (name : String) : Prop :=
  ∃ listing, listings.get name = .ok listing ∧ listing.name = name ∧
    ∀ member ∈ listing.members, Concerns member →
      ∃ types, MethodDescriptor.decode member.descriptor = .ok types

/-- Whether a name can be read is settled by its listing. -/
instance (listings : Listings) (name : String) : Decidable (IsReadable listings name) :=
  decidable_of_iff ((listings.get name).toOption.any fun listing =>
      listing.name == name && listing.members.all fun member =>
        !decide (Concerns member) || (MethodDescriptor.decode member.descriptor).toBool) <| by
    cases known : listings.get name with
    | error refusal => simp [IsReadable, known, Except.toOption]
    | ok listing =>
      have decoded (member : Member) : (MethodDescriptor.decode member.descriptor).toBool ↔
          ∃ types, MethodDescriptor.decode member.descriptor = .ok types := by
        cases MethodDescriptor.decode member.descriptor <;> simp [Except.toBool]
      simp [IsReadable, known, Except.toOption, decoded, ← Bool.not_eq_true, or_iff_not_imp_left]

theorem numbered_eq (types : List TypeName) :
    numbered types = types.mapIdx fun place type => ⟨type, "arg" ++ toString place⟩ := by
  rw [numbered, List.mapIdx_eq_zipIdx_map]
  rfl

/-- A member with a method descriptor is the method of it. -/
theorem methodOf_eq_ok_iff {type : String} {member : Member} {method : Method} :
    methodOf type member = .ok method ↔ declaration? member = some method := by
  cases decoded : MethodDescriptor.decode member.descriptor with
  | error cause => simp [methodOf, declaration?, decoded]
  | ok types => simp [methodOf, declaration?, decoded, numbered_eq]

/-- The members of a list that all have method descriptors are the methods of them. -/
theorem mapM_methodOf_eq_ok {type : String} {members : List Member}
    (decodable : ∀ member ∈ members, ∃ types, MethodDescriptor.decode member.descriptor = .ok types) :
    members.mapM (methodOf type) = .ok (members.filterMap declaration?) := by
  induction members with
  | nil => rfl
  | cons member members ih =>
    obtain ⟨types, decoded⟩ := decodable member List.mem_cons_self
    have rest := ih fun other among => decodable other (List.mem_cons_of_mem member among)
    obtain ⟨method, declares⟩ : ∃ method, declaration? member = some method := by
      rw [declaration?, decoded]
      exact ⟨_, rfl⟩
    rw [List.mapM_cons, rest, methodOf_eq_ok_iff.mpr declares, List.filterMap_cons_some declares]
    rfl

/-- A type that can be read has the methods that it declares. -/
theorem methodsOf_of_isReadable {listings : Listings} {name : String}
    (readable : IsReadable listings name) :
    ∃ listing, listings.get name = .ok listing ∧ listing.name = name ∧
      methodsOf name listing = .ok (declared listings name) ∧
      parents listing = below listings name := by
  obtain ⟨listing, known, named, decodable⟩ := readable
  refine ⟨listing, known, named, ?_, (below_eq known).symm⟩
  rw [methodsOf, isEligible_eq, declared, known]
  refine mapM_methodOf_eq_ok fun member among => ?_
  obtain ⟨listed, concerns⟩ := List.mem_filter.mp among
  exact decodable member listed (of_decide_eq_true concerns)

/-! ## The walk -/

/-- Through types that can be read, the walk is a depth-first visit, and it collects what the
visited types declare. -/
theorem walk_visits {listings : Listings} {seen pending : List String}
    (readable : ∀ start ∈ pending, ∀ name, Reaches (below listings) start name →
      IsReadable listings name) :
    ∃ order, Visits (below listings) seen pending order ∧
      walk listings seen pending = (order, .ok (order.flatMap (declared listings))) := by
  fun_induction walk listings seen pending with
  | case1 seen => exact ⟨[], .done seen, rfl⟩
  | case2 seen name pending old ih =>
    obtain ⟨order, visits, walked⟩ := ih fun start h => readable start (List.mem_cons_of_mem _ h)
    exact ⟨order, .skip old visits, walked⟩
  | case3 seen name pending _ refusal unknown =>
    obtain ⟨listing, known, _⟩ := readable name List.mem_cons_self name .refl
    rw [unknown] at known
    cases known
  | case4 seen name pending _ listing known cause unread =>
    obtain ⟨listing', known', _, read, _⟩ :=
      methodsOf_of_isReadable (readable name List.mem_cons_self name .refl)
    rw [known] at known'
    cases known'
    rw [unread] at read
    cases read
  | case5 seen name pending new listing known methods read asked others walked ih =>
    obtain ⟨listing', known', _, read', parents_eq⟩ :=
      methodsOf_of_isReadable (readable name List.mem_cons_self name .refl)
    rw [known] at known'
    cases known'
    rw [read] at read'
    cases read'
    obtain ⟨order, visits, walked'⟩ := ih fun start h => by
      rcases List.mem_append.mp h with h | h
      · rw [parents_eq] at h
        exact fun other path => readable name List.mem_cons_self other (.head h path)
      · exact readable start (List.mem_cons_of_mem _ h)
    rw [walked] at walked'
    cases walked'
    rw [parents_eq] at visits
    obtain ⟨under, rest, inside, behind, rfl⟩ := Visits.append_iff.mp visits
    exact ⟨name :: under ++ rest, .enter new inside behind, by simp [Except.map]⟩

/-! ## One method for each key -/

/-- `kept` are the methods of a list without those whose key came before. -/
structure FirstOfEachKey (methods kept : List Method) : Prop where
  sublist : kept.Sublist methods
  nodup : (kept.map Method.key).Nodup
  find? : ∀ key, kept.find? (·.key = key) = methods.find? (·.key = key)

theorem firstPerKey_sublist (methods : List Method) : (firstPerKey methods).Sublist methods := by
  induction methods with
  | nil => exact .slnil
  | cons method methods ih => exact (List.filter_sublist.trans ih).cons_cons method

theorem firstPerKey_nodup (methods : List Method) :
    ((firstPerKey methods).map Method.key).Nodup := by
  induction methods with
  | nil => exact List.nodup_nil
  | cons method methods ih =>
    rw [firstPerKey, List.map_cons, List.nodup_cons]
    refine ⟨?_, ih.sublist (List.filter_sublist.map _)⟩
    intro member
    obtain ⟨other, kept, same⟩ := List.mem_map.mp member
    simpa [same] using (List.mem_filter.mp kept).2

theorem find?_firstPerKey (methods : List Method) (key : String × List String) :
    (firstPerKey methods).find? (·.key = key) = methods.find? (·.key = key) := by
  induction methods with
  | nil => rfl
  | cons method methods ih =>
    rw [firstPerKey]
    by_cases same : method.key = key
    · simp [same]
    · simp only [List.find?_cons, same, decide_false]
      rw [List.find?_filter, ← ih]
      congr 1
      funext other
      by_cases h : other.key = key
      · simp [h, Ne.symm same]
      · simp [h]

theorem methods_found (listing : Listing) (methods : List Method) :
    (found listing methods).type.methods = firstPerKey methods := rfl

theorem firstPerKey_firstOfEachKey (methods : List Method) :
    FirstOfEachKey methods (firstPerKey methods) :=
  ⟨firstPerKey_sublist methods, firstPerKey_nodup methods, find?_firstPerKey methods⟩

end JavaStubs.Hierarchy

/-! ## What a description collects -/

namespace JavaStubs

namespace Hierarchy

/-- What the description of a type collects when the types of its hierarchy are met in `order`. -/
structure IsCollected (listings : Listings) (target : String) (order : List String)
    (methods : List Method) : Prop where
  visits : Visits (below listings) [] [target] order
  mem_iff : ∀ name, name ∈ order ↔ Reaches (below listings) target name
  nodup : order.Nodup
  firstOfEachKey : FirstOfEachKey (order.flatMap (declared listings)) methods
  /-- Every member of every type of the hierarchy, if it concerns a class, has its key among the methods. -/
  complete : ∀ name listing member, Reaches (below listings) target name →
    listings.get name = .ok listing → member ∈ listing.members → Concerns member →
    ∃ parameters returned, MethodDescriptor.decode member.descriptor = .ok (parameters, returned) ∧
      (member.name, parameters.map TypeName.name) ∈ methods.map Method.key

theorem parameterTypes_mapIdx (types : List TypeName) (name : Nat → String) :
    (types.mapIdx fun place type => (⟨type, name place⟩ : Parameter)).map (·.type.name) =
      types.map TypeName.name :=
  List.ext_getElem (by simp) (by simp)

/-- A member that concerns a class is a declaration of a type that can be read, with its name and the types of
its parameters for a key. -/
theorem exists_declared {listings : Listings} {name : String} {listing : Listing} {member : Member}
    (readable : IsReadable listings name) (known : listings.get name = .ok listing)
    (listed : member ∈ listing.members) (concerns : Concerns member) :
    ∃ method ∈ declared listings name, ∃ types returned,
      MethodDescriptor.decode member.descriptor = .ok (types, returned) ∧
        method.key = (member.name, types.map TypeName.name) := by
  obtain ⟨_, known', -, decodable⟩ := readable
  obtain rfl := Except.ok.inj (known.symm.trans known')
  obtain ⟨⟨types, returned⟩, decoded⟩ := decodable member listed concerns
  obtain ⟨method, declares, key⟩ : ∃ method, declaration? member = some method ∧
      method.key = (member.name, types.map TypeName.name) := by
    rw [declaration?, decoded]
    exact ⟨_, rfl, by simp only [Method.key, Method.parameterTypes, parameterTypes_mapIdx]⟩
  refine ⟨method, ?_, types, returned, decoded, key⟩
  rw [declared, known]
  exact List.mem_filterMap.mpr
    ⟨member, List.mem_filter.mpr ⟨listed, decide_eq_true concerns⟩, declares⟩

/-- Any method of a list has its key among the first ones. -/
theorem FirstOfEachKey.key_mem {methods kept : List Method} (first : FirstOfEachKey methods kept)
    {method : Method} (member : method ∈ methods) : method.key ∈ kept.map Method.key := by
  have some : (kept.find? (·.key = method.key)).isSome := by
    rw [first.find?, List.find?_isSome]
    exact ⟨method, member, by simp⟩
  obtain ⟨other, found, same⟩ := List.find?_isSome.mp some
  exact List.mem_map.mpr ⟨other, found, by simpa using same⟩

/-- A hierarchy of types that can be read is described, by what a depth-first visit collects. -/
theorem describe_isCollected {listings : Listings} {target : String}
    (readable : ∀ name, Reaches (below listings) target name → IsReadable listings name) :
    ∃ order described, describe listings target = (target :: order, .ok described) ∧
      described.binaryName = target ∧ IsCollected listings target order described.type.methods := by
  obtain ⟨listing, known, named, _⟩ := readable target .refl
  have all : ∀ start ∈ [target], ∀ name, Reaches (below listings) start name →
      IsReadable listings name := by
    intro start h name path
    rw [List.mem_singleton.mp h] at path
    exact readable name path
  obtain ⟨order, visits, walked⟩ : ∃ order, Visits (below listings) [] [target] order ∧ _ :=
    walk_visits all
  refine ⟨order, found listing (order.flatMap (declared listings)), ?_, named, visits,
    visits.mem_iff, visits.nodup, ?_, ?_⟩
  · simp [describe, known, named, walked, Except.map]
  · rw [methods_found]
    exact firstPerKey_firstOfEachKey _
  · intro name answer member path known listed concerns
    obtain ⟨method, declares, parameters, returned, decoded, key⟩ :=
      exists_declared (readable name path) known listed concerns
    refine ⟨parameters, returned, decoded, ?_⟩
    rw [← key, methods_found]
    exact (firstPerKey_firstOfEachKey _).key_mem
      (List.mem_flatMap.mpr ⟨name, (visits.mem_iff name).mpr path, declares⟩)

end Hierarchy

namespace Disassembler

open Hierarchy

/-! ## Runs of the tool -/

/-- The listings that a disassembler answers with in a world, those already kept first. -/
def known (tool : Disassembler) (world : World) : Listings := tool.listings.keeping world.listings

/-- The names whose listing is not kept, and that the tool has to be run for. -/
def unkept (world : World) (names : List String) : List String :=
  names.filter fun name => (world.listings.lookup name).isNone

/-- The world after the tool was run for a name and its listing was kept. -/
def ran (tool : Disassembler) (world : World) (name : String) (listing : Listing) : World :=
  { world with
    log := world.log ++ [⟨.debug, source, "running " ++ Text.joined " " (tool.arguments name)⟩]
    runs := world.runs ++ [(.disassembler, tool.arguments name)]
    listings := world.listings ++ [(name, listing)] }

theorem noteAsked_kept {tool : Disassembler} {world : World} {name : String}
    {names : List String} {post : Except Fault Unit → World → Prop}
    (kept : (world.listings.lookup name).isSome) :
    Ends (tool.noteAsked (name :: names)) world post ↔ Ends (tool.noteAsked names) world post := by
  have kept' : (world.listings.lookup name).isNone = false := by
    cases h : world.listings.lookup name <;> simp_all
  simp [noteAsked, Ends.bind_iff, kept']

theorem noteAsked_new {tool : Disassembler} {world : World} {name : String}
    {names : List String} {listing : Listing} {post : Except Fault Unit → World → Prop}
    (new : world.listings.lookup name = none) (answer : tool.listings.get name = .ok listing) :
    Ends (tool.noteAsked (name :: names)) world post ↔
      Ends (tool.noteAsked names) (tool.ran world name listing) post := by
  simp [noteAsked, Ends.bind_iff, new, answer, noteRun, Job.noteRun, keep, ran]

private theorem get_known {tool : Disassembler} {world : World} {name : String} {listing : Listing}
    (new : world.listings.lookup name = none) (answer : (tool.known world).get name = .ok listing) :
    tool.listings.get name = .ok listing := by
  simpa [known, Listings.keeping, new] using answer

theorem lookup_ran {tool : Disassembler} {world : World} {name other : String}
    {listing : Listing} :
    (tool.ran world name listing).listings.lookup other =
      (world.listings.lookup other).or (if other = name then some listing else none) := by
  by_cases same : other = name
  · simp [ran, List.lookup_append, same]
  · have different : (other == name) = false := by simp [same]
    simp [ran, List.lookup_append, List.lookup_cons, same, different]

private theorem get_known_ran {tool : Disassembler} {world : World} {name other : String}
    {listing : Listing} (different : other ≠ name) :
    (tool.known (tool.ran world name listing)).get other = (tool.known world).get other := by
  simp [known, Listings.keeping, lookup_ran, different]

private theorem unkept_ran {tool : Disassembler} {world : World} {name : String}
    {names : List String} {listing : Listing} (absent : name ∉ names) :
    unkept (tool.ran world name listing) names = unkept world names := by
  refine List.filter_congr fun other member => ?_
  have different : other ≠ name := fun same => absent (same ▸ member)
  simp [lookup_ran, different]

/-- The runs for different names are those for the names that are not kept, in order. -/
theorem noteAsked_runs {tool : Disassembler} {world : World} {names : List String}
    (nodup : names.Nodup)
    (answered : ∀ name ∈ names, ∃ listing, (tool.known world).get name = .ok listing) :
    Ends (tool.noteAsked names) world fun result after => result = .ok () ∧
      after.runs = world.runs ++ (unkept world names).map fun name =>
        (.disassembler, tool.arguments name) := by
  induction names generalizing world with
  | nil => simp [noteAsked, unkept]
  | cons name names ih =>
    obtain ⟨absent, nodup⟩ := List.nodup_cons.mp nodup
    obtain ⟨listing, answer⟩ := answered name List.mem_cons_self
    cases new : world.listings.lookup name with
    | some _ =>
      rw [noteAsked_kept (by simp [new])]
      have skipped : unkept world (name :: names) = unkept world names := by simp [unkept, new]
      rw [skipped]
      exact ih nodup fun other member => answered other (List.mem_cons_of_mem _ member)
    | none =>
      rw [noteAsked_new new (get_known new answer)]
      have first : unkept world (name :: names) = name :: unkept world names := by
        simp [unkept, new]
      have answered' : ∀ other ∈ names, ∃ answer,
          (tool.known (tool.ran world name listing)).get other = .ok answer := by
        intro other member
        have different : other ≠ name := fun same => absent (same ▸ member)
        rw [get_known_ran different]
        exact answered other (List.mem_cons_of_mem _ member)
      refine (ih nodup answered').mono ?_
      rintro result after ⟨done, runs⟩
      refine ⟨done, ?_⟩
      rw [runs, unkept_ran absent, first]
      simp [ran]

/-- Asking for a name again right after it was asked for changes nothing. -/
theorem noteAsked_again {tool : Disassembler} {world : World} {name : String} {names : List String}
    {listing : Listing} {post : Except Fault Unit → World → Prop}
    (answer : (tool.known world).get name = .ok listing) :
    Ends (tool.noteAsked (name :: name :: names)) world post ↔
      Ends (tool.noteAsked (name :: names)) world post := by
  cases new : world.listings.lookup name with
  | some _ => rw [noteAsked_kept (by simp [new])]
  | none =>
    rw [noteAsked_new new (get_known new answer), noteAsked_new new (get_known new answer),
      noteAsked_kept (by simp [lookup_ran])]

/-! ## Descriptions -/

private theorem readsDisk_holds (file : String) (entry : Path) : ReadsDisk (holds file entry) := by
  refine .bind (.onDisk (Disk.reads_probe entry)) fun found => ?_
  split
  · exact .onDisk (.bind (Disk.reads_probe _) fun _ => .pure _)
  · exact .bind (.ofExcept _) fun _ => .pure _
  · exact .pure _

/-- The search for a class file changes nothing, and only the disk matters for it. -/
theorem readsDisk_locate (classpath : List Path) (binaryName : String) :
    ReadsDisk (locate classpath binaryName) := by
  unfold locate
  induction classpath with
  | nil => exact .pure _
  | cons entry classpath ih => exact .bind (readsDisk_holds _ entry) fun held => .ite (.pure _) ih

/-- The description of a type is `type`, with the place of its class file added if the search for
that ends in one. -/
def Describes (tool : Disassembler) (world : World) (target : String) (type : Interface) : Prop :=
  Ends (tool.introspector target) world fun result after =>
    Ends (locate tool.classpath target) after fun place _ =>
      result = place.map fun place => { type with codeSource := place }

/-- What a visit of the hierarchy collects is described, and the tool is run for each type whose
listing is not kept. -/
theorem introspector_ends {tool : Disassembler} {world : World} {target : String}
    {order : List String} {described : Found}
    (run : describe (tool.known world) target = (target :: order, .ok described))
    (named : described.binaryName = target)
    (collected : IsCollected (tool.known world) target order described.type.methods)
    (answered : ∀ name ∈ order, ∃ listing, (tool.known world).get name = .ok listing) :
    Ends (tool.introspector target) world fun result after =>
      after.runs = world.runs ++ (unkept world order).map (fun name =>
        (.disassembler, tool.arguments name)) ∧
      Ends (locate tool.classpath target) after fun place _ =>
        result = place.map fun place => { described.type with codeSource := place } := by
  have first : ∃ rest, order = target :: rest := by
    cases collected.visits with
    | skip old _ => simp at old
    | enter => exact ⟨_, rfl⟩
  have asked : Ends (tool.noteAsked (target :: order)) world fun result after => result = .ok () ∧
      after.runs = world.runs ++ (unkept world order).map fun name =>
        (.disassembler, tool.arguments name) := by
    obtain ⟨rest, rfl⟩ := first
    obtain ⟨listing, answer⟩ := answered target List.mem_cons_self
    exact (noteAsked_again answer).mpr (noteAsked_runs collected.nodup answered)
  have opened : describe (tool.listings.keeping world.listings) target =
    (target :: order, .ok described) := run
  simp only [introspector, Ends.bind_iff, Ends.get_iff, onward_ok, opened]
  refine asked.mono ?_
  rintro result after ⟨rfl, runs⟩
  rw [onward_ok, located, Ends.bind_iff]
  simp only [mapError_ok, Ends.ofExcept_iff, onward_ok, Ends.bind_iff]
  -- What the search gives is the only thing that the description still depends on.
  obtain ⟨place, search⟩ := (readsDisk_locate tool.classpath target).reads.run after
  rw [named, Ends.of_run search]
  cases place with
  | error fault => exact ⟨runs, (Ends.of_run search).mpr rfl⟩
  | ok place => exact ⟨runs, (Ends.of_run search).mpr rfl⟩

theorem answered_of_readable {listings : Listings} {target : String} {order : List String}
    (readable : ∀ name, Reaches (below listings) target name → IsReadable listings name)
    (mem_iff : ∀ name, name ∈ order ↔ Reaches (below listings) target name) :
    ∀ name ∈ order, ∃ listing, listings.get name = .ok listing := by
  intro name member
  obtain ⟨listing, answer, _⟩ := readable name ((mem_iff name).mp member)
  exact ⟨listing, answer⟩

/-- Two interfaces that extend each other, one of them itself as well. -/
def ring : Disassembler where
  command := "javap"
  classpath := []
  run arguments :=
    if arguments.getLast? = some "L" then
      .ok ⟨0, "interface L extends R, L\n\x7b\n  int m();\n    descriptor: ()I\n    flags:\n\x7d\n", ""⟩
    else if arguments.getLast? = some "R" then
      .ok ⟨0, "interface R extends L\n\x7b\n  int m(int);\n    descriptor: (I)I\n    flags:\n\x7d\n", ""⟩
    else .ok ⟨1, "", "Error: class not found"⟩
  names := ["L", "R"]

/-- A world without files in which nothing has been done. -/
def untouched : World :=
  .start ⟨.empty, [], [], [], 0o022⟩ [] (.ofText "2024-01-02T03:04:05+00:00") none

end Disassembler
end JavaStubs

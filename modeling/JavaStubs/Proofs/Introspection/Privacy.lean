import JavaStubs.Proofs.Introspection.Answering
import JavaStubs.Proofs.Listing.InnerTables

/-!
Which interfaces are reported as private: those that a row of the table in their own listing calls so. The rows
of the types that enclose an interface are in the same table, but do not count. The checked description of a
private interface ends in a refusal, and it changes no file.
-/
namespace JavaStubs

namespace Hierarchy

/-- A type is described when everything that can be reached from its listing can be read, whatever name it was
asked for by. -/
theorem describe_found {listings : Listings} {name : String} {listing : Listing}
    (known : listings.get name = .ok listing)
    (readable : ∀ other, Reaches (below listings) listing.name other → IsReadable listings other) :
    ∃ order methods, describe listings name = (name :: order, .ok (found listing methods)) := by
  have all : ∀ start ∈ [listing.name], ∀ other, Reaches (below listings) start other →
      IsReadable listings other := by
    intro start member other path
    rw [List.mem_singleton.mp member] at path
    exact readable other path
  obtain ⟨order, -, walked⟩ := walk_visits all
  refine ⟨order, order.flatMap (declared listings), ?_⟩
  rw [describe, known]
  dsimp only
  rw [walked]
  rfl

/-- Whatever is described is described from the listing of its name. -/
theorem eq_found_of_describe {listings : Listings} {name : String} {described : Found}
    (done : (describe listings name).2 = .ok described) :
    ∃ listing methods, listings.get name = .ok listing ∧ described = found listing methods := by
  unfold describe at done
  split at done
  · cases done
  · next listing known =>
    dsimp only at done
    cases walked : (walk listings [] [listing.name]).2 with
    | error refusal =>
      rw [walked] at done
      cases done
    | ok methods =>
      rw [walked] at done
      exact ⟨listing, methods, known, (Except.ok.inj done).symm⟩

theorem canonicalName_found {listing : Listing} (some_name : listing.name ≠ "") (methods : List Method) :
    (found listing methods).type.canonicalName = MethodDescriptor.canonicalName listing.name := by
  have some_canonical : ¬ (MethodDescriptor.canonicalName listing.name).isEmpty = true := by
    rw [String.isEmpty_iff]
    intro none
    have chars := congrArg String.toList none
    rw [MethodDescriptor.canonicalName, Text.replaced, String.toList_ofList] at chars
    exact some_name (String.toList_inj.mp (List.map_eq_nil_iff.mp chars))
  exact if_neg some_canonical

end Hierarchy

namespace Disassembler

open Hierarchy
open Listing (Tabled)

variable {tool : Disassembler} {world : World} {name : String} {listing : Listing}

/-! ## Descriptions and the disk -/

theorem noteAsked_disk (tool : Disassembler) (world : World) (names : List String) :
    Ends (tool.noteAsked names) world fun r after => r = .ok () ∧ after.disk = world.disk := by
  induction names generalizing world with
  | nil => exact ⟨rfl, rfl⟩
  | cons name names ih =>
    cases kept : world.listings.lookup name with
    | some listing =>
      rw [noteAsked_kept (by simp [kept])]
      exact ih world
    | none =>
      cases answer : tool.listings.get name with
      | ok listing =>
        rw [noteAsked_new kept answer]
        exact ih (tool.ran world name listing)
      | error refusal =>
        rw [noteAsked_refused kept answer]
        exact ih (tool.tried world name)

/-- A description leaves the disk as it is, and ends as the search for the class file of what is found does. -/
theorem introspector_located (tool : Disassembler) (world : World) (name : String) :
    Ends (tool.introspector name) world fun r after => after.disk = world.disk ∧
      Ends (located tool.classpath (describe (tool.known world) name).2) world fun found _ => r = found := by
  rw [introspector_iff, Ends.bind_iff]
  refine (noteAsked_disk tool world _).mono fun noted after ends => ?_
  obtain ⟨rfl, same⟩ := ends
  obtain ⟨answer, run⟩ := readsDisk_located tool.classpath (describe (tool.known world) name).2
  rw [onward_ok, Ends.of_run (run after)]
  refine ⟨same, ?_⟩
  rw [Ends.of_run (run world), same]

/-- The type that is described, if any is, is made from the listing of its name and the place of its class file. -/
theorem introspector_made (known : (tool.known world).get name = .ok listing) :
    Ends (tool.introspector name) world fun r after => after.disk = world.disk ∧
      ∀ type, r = .ok type →
        ∃ methods place, type = { (found listing methods).type with codeSource := place } := by
  refine (introspector_located tool world name).mono fun r after ends => ?_
  obtain ⟨same, search⟩ := ends
  refine ⟨same, ?_⟩
  rintro type rfl
  unfold located at search
  cases described : (describe (tool.known world) name).2 with
  | error refusal =>
    rw [described, Ends.bind_iff, Ends.ofExcept_iff] at search
    cases search
  | ok result =>
    obtain ⟨found_listing, methods, also, rfl⟩ := eq_found_of_describe described
    obtain rfl := Except.ok.inj (known.symm.trans also)
    rw [described, Ends.bind_iff, Ends.ofExcept_iff, mapError_ok, onward_ok, Ends.bind_iff] at search
    obtain ⟨place, after, run⟩ := Ends.exists_run (locate tool.classpath (found listing methods).binaryName) world
    rw [Ends.of_run run] at search
    cases place with
    | error fault => cases search
    | ok place =>
      rw [onward_ok, Ends.pure_iff] at search
      cases search
      exact ⟨methods, place, rfl⟩

theorem introspector_type (known : (tool.known world).get name = .ok listing) (some_name : listing.name ≠ "") :
    Ends (tool.introspector name) world fun r after => after.disk = world.disk ∧
      ∀ type, r = .ok type → type.isInterface = listing.isInterface ∧
        type.isPrivate = listing.privateInner.contains listing.name ∧
        type.canonicalName = MethodDescriptor.canonicalName listing.name := by
  refine (introspector_made known).mono fun r after ends => ⟨ends.1, fun type done => ?_⟩
  obtain ⟨methods, place, rfl⟩ := ends.2 type done
  exact ⟨rfl, rfl, canonicalName_found some_name methods⟩

/-- Everything that a description of a type needs is there: the listings of its hierarchy, and the entries of
the class path. -/
structure IsDescribable (tool : Disassembler) (world : World) (binaryName : String) : Prop where
  readable : ∀ other, Reaches (below (tool.known world)) binaryName other → IsReadable (tool.known world) other
  located : Ends (locate tool.classpath binaryName) world fun place _ => ∃ entry, place = .ok entry

theorem introspector_describes (known : (tool.known world).get name = .ok listing)
    (describable : tool.IsDescribable world listing.name) :
    Ends (tool.introspector name) world fun r _ => ∃ type, r = .ok type := by
  obtain ⟨order, methods, described⟩ := describe_found known describable.readable
  refine (introspector_located tool world name).mono fun r after ends => ?_
  obtain ⟨-, search⟩ := ends
  unfold located at search
  rw [described, Ends.bind_iff, Ends.ofExcept_iff, mapError_ok, onward_ok, Ends.bind_iff] at search
  obtain ⟨_, after, ⟨entry, rfl⟩, searched⟩ := (describable.located.and search).elim
  rw [onward_ok, Ends.pure_iff] at searched
  exact ⟨_, searched⟩

/-- All that a type without members and supertypes needs is its listing. -/
theorem isDescribable_of_alone (known : (tool.known world).get name = .ok listing) (named : listing.name = name)
    (no_members : listing.members = []) (alone : parents listing = []) (no_classpath : tool.classpath = []) :
    tool.IsDescribable world name := by
  have bottom : below (tool.known world) name = [] := by
    rw [below, known]
    exact alone
  refine ⟨fun other path => ?_, ?_⟩
  · rcases path.cases_head with rfl | ⟨next, edge, -⟩
    · exact ⟨listing, known, named, by simp [no_members]⟩
    · rw [LeadsTo, bottom] at edge
      cases edge
  · rw [no_classpath]
    exact ⟨none, rfl⟩

/-! ## Private interfaces -/

/-- A tool that is run for a name, since nothing is kept for that, prints a text. -/
structure Lists (tool : Disassembler) (world : World) (name text : String) : Prop where
  new : world.listings.lookup name = none
  known : name ∈ tool.names
  prints : ∃ outcome, tool.run (tool.arguments name) = .ok outcome ∧ outcome.ok = true ∧ outcome.stdout = text

theorem Lists.get_known {text : String} (lists : tool.Lists world name text)
    (read : Listing.read text = .ok listing) (some_name : listing.name ≠ "") :
    (tool.known world).get name = .ok listing := by
  obtain ⟨outcome, run, ok, rfl⟩ := lists.prints
  have answer : tool.listingOf name = .ok listing := by
    unfold listingOf listingIn
    rw [run]
    dsimp only
    rw [ok, read, if_neg (by decide)]
    dsimp only
    rw [if_neg (by simpa using some_name)]
  rw [get_known_new lists.new]
  unfold listings Listings.among
  dsimp only
  rw [answer]
  dsimp only
  rw [if_pos (List.contains_iff_mem.mpr lists.known)]

/-- However an interface is described whose listing has a table, it is reported as private exactly if a row of
the table calls it so. The checked description changes no file; it ends in a refusal for a private interface,
and in a description otherwise, as long as everything that it needs is there. -/
theorem implementable_private (tool : Disassembler) (world : World) (name : String) (tabled : Tabled)
    (proper : tabled.IsProper) (lists : tool.Lists world name tabled.text)
    (is_interface : tabled.report.listing.isInterface = true) :
    Ends (tool.introspector name) world (fun r _ => ∀ type, r = .ok type →
      (type.isPrivate = true ↔ tabled.CallsPrivate tabled.report.listing.name)) ∧
    Ends (Introspection.implementable tool.introspector name) world fun r after => after.disk = world.disk ∧
      (tabled.CallsPrivate tabled.report.listing.name → ∀ type, r ≠ .ok type) ∧
      (tool.IsDescribable world tabled.report.listing.name →
        (tabled.CallsPrivate tabled.report.listing.name → r = .error (.input (.privateInterface
          (MethodDescriptor.canonicalName tabled.report.listing.name)))) ∧
        (¬ tabled.CallsPrivate tabled.report.listing.name → ∃ type, r = .ok type)) := by
  have named := tabled.name_listing
  have some_name : tabled.listing.name ≠ "" := named ▸ proper.report.some_name
  have known := lists.get_known (Tabled.read_text proper) some_name
  have is_private : tabled.listing.privateInner.contains tabled.listing.name = true ↔
      tabled.CallsPrivate tabled.report.listing.name := by
    rw [List.contains_iff_mem, Tabled.mem_privateInner proper, named]
  have describes (describable : tool.IsDescribable world tabled.report.listing.name) :
      Ends (tool.introspector name) world fun r _ => ∃ type, r = .ok type :=
    introspector_describes known (named ▸ describable)
  have described := introspector_type known some_name
  unfold Introspection.implementable
  rw [Ends.bind_iff]
  obtain ⟨r, after, run⟩ := Ends.exists_run (tool.introspector name) world
  rw [Ends.of_run run] at described describes ⊢
  rw [Ends.of_run run]
  obtain ⟨same, types⟩ := described
  refine ⟨fun type done => by rw [(types type done).2.1, is_private], ?_⟩
  cases r with
  | error fault =>
    refine ⟨same, fun _ _ => nofun, fun describable => ?_⟩
    obtain ⟨type, done⟩ := describes describable
    cases done
  | ok type =>
    obtain ⟨interface, private_iff, canonical⟩ := types type rfl
    rw [Tabled.isInterface_listing, is_interface] at interface
    rw [onward_ok, Ends.ofExcept_iff]
    unfold Introspection.requireImplementable
    rw [interface, if_neg (by decide), private_iff, canonical, named]
    by_cases marked : tabled.CallsPrivate tabled.report.listing.name
    · rw [named] at is_private
      rw [if_pos (is_private.mpr marked), mapError_error]
      exact ⟨same, fun _ _ => nofun, fun _ => ⟨fun _ => rfl, fun unmarked => absurd marked unmarked⟩⟩
    · rw [named] at is_private
      rw [if_neg fun found => marked (is_private.mp found), mapError_ok]
      exact ⟨same, fun also => absurd also marked, fun _ => ⟨fun also => absurd also marked, fun _ => ⟨type, rfl⟩⟩⟩

/-! ### An interface in a class in a class -/

/-- A report on the interface. -/
def innermost : Listing.Report where
  preamble := []
  heading := "interface a.A$M$I".toList
  kind := "interface"
  named := "a.A$M$I".toList
  header := ["  flags: (0x0600) ACC_INTERFACE".toList]
  opening := "\x7b".toList
  blocks := []
  closing := "\x7d".toList
  trailer := []
  table := none

theorem isProper_innermost : innermost.IsProper :=
  ⟨by decide +kernel, nofun, Listing.heads_iff.mpr (by decide +kernel), by decide +kernel, by decide +kernel,
    by decide +kernel, nofun, by decide +kernel, nofun, nofun⟩

theorem listing_innermost :
    innermost.listing = ⟨"a.A$M$I", "interface", ["ACC_INTERFACE"], [], [], []⟩ := by decide +kernel

theorem name_innermost : innermost.listing.name = "a.A$M$I" := congrArg Listing.name listing_innermost

/-- The report with a table. -/
def enclosed (table : List String) : Tabled where
  report := innermost
  heading := "InnerClasses:".toList
  table := table.map String.toList
  after := ["NestHost: class a/A".toList]

/-- A tool that lists the interface with that report. -/
def enclosing (table : List String) : Disassembler where
  command := "javap"
  classpath := []
  run _ := .ok ⟨0, (enclosed table).text, ""⟩
  names := ["a.A$M$I"]

/-- A table in which the interface is private, among another row and a line that is none. -/
def ownRow : List String :=
  ["  static #5= #2 of #9; // M=class a/A$M of class a/A", "   // private",
    "  private static #7= #6 of #5; // I=class a/A$M$I of class a/A$M"]

/-- A table in which the class that encloses the interface is private. -/
def enclosingRow : List String :=
  ["  static #7= #6 of #5; // I=class a/A$M$I of class a/A$M",
    "  private static #5= #2 of #9; // M=class a/A$M of class a/A"]

theorem isProper_enclosed {table : List String}
    (lines : ∀ line ∈ table, Listing.StaysInTable line.toList ∧ Text.IsWhole line.toList) :
    (enclosed table).IsProper where
  report := isProper_innermost
  untabled := rfl
  whole := by
    have ends : ∀ line ∈ ["InnerClasses:".toList, "NestHost: class a/A".toList], Text.IsWhole line := by
      decide +kernel
    intro line member
    rcases List.mem_cons.mp member with rfl | member
    · exact ends _ List.mem_cons_self
    · rcases List.mem_append.mp member with member | member
      · obtain ⟨text, inside, rfl⟩ := List.mem_map.mp member
        exact (lines text inside).2
      · exact ends line (List.mem_cons_of_mem _ member)
  heading := List.prefix_rfl
  table := by
    intro line member
    obtain ⟨text, inside, rfl⟩ := List.mem_map.mp member
    exact (lines text inside).1
  after := ⟨by decide, nofun⟩

theorem lists_enclosing (table : List String) :
    (enclosing table).Lists untouched "a.A$M$I" (enclosed table).text :=
  ⟨rfl, List.mem_cons_self, _, rfl, rfl, rfl⟩

theorem isDescribable_enclosing {table : List String} (proper : (enclosed table).IsProper) :
    (enclosing table).IsDescribable untouched innermost.listing.name := by
  obtain ⟨names, all⟩ := (enclosed table).listing_eq
  have listing : (enclosed table).listing = ⟨"a.A$M$I", "interface", ["ACC_INTERFACE"], [], [], names⟩ :=
    all.trans (congrArg (fun listing => { listing with privateInner := names }) listing_innermost)
  have known := (lists_enclosing table).get_known (Tabled.read_text proper) (by simp [listing])
  rw [listing] at known
  rw [name_innermost]
  exact isDescribable_of_alone known rfl rfl rfl rfl

theorem implementable_private_enclosed : (enclosed ownRow).IsProper ∧
    (enclosing ownRow).Lists untouched "a.A$M$I" (enclosed ownRow).text ∧
    (enclosed ownRow).report.listing.isInterface = true ∧
    Ends (Introspection.implementable (enclosing ownRow).introspector "a.A$M$I") untouched fun r after =>
      after.disk = untouched.disk ∧ r = .error (.input (.privateInterface "a.A.M.I")) := by
  have proper : (enclosed ownRow).IsProper := isProper_enclosed (by decide +kernel)
  have is_interface : (enclosed ownRow).report.listing.isInterface = true := by decide +kernel
  have marked : (enclosed ownRow).CallsPrivate innermost.listing.name := by decide +kernel
  have canonical : MethodDescriptor.canonicalName innermost.listing.name = "a.A.M.I" := by
    rw [name_innermost]
    decide +kernel
  have describable := isDescribable_enclosing proper
  obtain ⟨-, checked⟩ := implementable_private (enclosing ownRow) untouched "a.A$M$I" (enclosed ownRow) proper
    (lists_enclosing ownRow) is_interface
  refine ⟨proper, lists_enclosing ownRow, is_interface, checked.mono fun r after ends => ?_⟩
  obtain ⟨same, -, checked⟩ := ends
  rw [← canonical]
  exact ⟨same, (checked describable).1 marked⟩

/-- An interface in a private class is not reported as private, and passes the check. -/
theorem enclosing_unchecked : (enclosed enclosingRow).IsProper ∧
    (enclosing enclosingRow).Lists untouched "a.A$M$I" (enclosed enclosingRow).text ∧
    (enclosed enclosingRow).CallsPrivate "a.A$M" ∧
    Ends ((enclosing enclosingRow).introspector "a.A$M$I") untouched
      (fun r _ => ∃ type, r = .ok type ∧ type.isPrivate = false) ∧
    Ends (Introspection.implementable (enclosing enclosingRow).introspector "a.A$M$I") untouched
      fun r _ => ∃ type, r = .ok type := by
  have proper : (enclosed enclosingRow).IsProper := isProper_enclosed (by decide +kernel)
  have is_interface : (enclosed enclosingRow).report.listing.isInterface = true := by decide +kernel
  have unmarked : ¬ (enclosed enclosingRow).CallsPrivate innermost.listing.name := by decide +kernel
  have lists := lists_enclosing enclosingRow
  have describable := isDescribable_enclosing proper
  have known := lists.get_known (Tabled.read_text proper) ((enclosed enclosingRow).name_listing.trans_ne
    isProper_innermost.some_name)
  obtain ⟨reported, checked⟩ := implementable_private (enclosing enclosingRow) untouched "a.A$M$I"
    (enclosed enclosingRow) proper lists is_interface
  have described := introspector_describes known (by rwa [Tabled.name_listing])
  refine ⟨proper, lists, by decide +kernel, (described.and reported).mono fun r after ends => ?_,
    checked.mono fun r after ends => (ends.2.2 describable).2 unmarked⟩
  obtain ⟨⟨type, done⟩, iff⟩ := ends
  exact ⟨type, done, eq_false_of_ne_true fun is_private => unmarked ((iff type done).mp is_private)⟩

end Disassembler
end JavaStubs

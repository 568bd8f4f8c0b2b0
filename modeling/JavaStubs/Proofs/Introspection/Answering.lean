import Mathlib.Data.List.Perm.Subperm
import JavaStubs.Proofs.Introspection.Remembering
import JavaStubs.Proofs.Listing.Sections

/-!
How the description of a type by a disassembler ends, whatever the tool prints. Each type is asked for once
on the way, so that there is an end if only finitely many have a listing; and the only fault besides that of
an input is that of a listing whose heading names no class.
-/
namespace JavaStubs

namespace Hierarchy

variable {listings : Listings} {name : String} {asked : List String}

/-! ## What is asked for -/

/-- Names that are asked for one after another: all but the last have a listing. The result is what the last
is refused with, or a member of one of them is no method. -/
structure Asks {α : Type} (listings : Listings) (asked : List String) (result : Except Refusal α) : Prop where
  answered : ∀ name ∈ asked.dropLast, ∃ listing, listings.get name = .ok listing
  refused : ∀ name ∈ asked, ∀ refusal, listings.get name = .error refusal → result = .error refusal
  cause : ∀ refusal, result = .error refusal → ∃ name ∈ asked, listings.get name = .error refusal ∨
    ∃ listing cause, listings.get name = .ok listing ∧ methodsOf name listing = .error cause ∧
      refusal = .input cause

namespace Asks

variable {α β : Type} {result : Except Refusal α}

theorem nil (value : α) : Asks listings [] (.ok value) :=
  ⟨nofun, nofun, nofun⟩

theorem of_refused {refusal : Refusal} (refused : listings.get name = .error refusal) :
    Asks listings [name] (.error refusal : Except Refusal α) := by
  refine ⟨nofun, fun other member refusal' refused' => ?_, fun refusal' same => ?_⟩
  · obtain rfl := List.mem_singleton.mp member
    rw [refused] at refused'
    rw [Except.error.inj refused']
  · obtain rfl := Except.error.inj same
    exact ⟨name, List.mem_singleton_self name, .inl refused⟩

theorem of_undecoded {listing : Listing} {cause : InputCause} (known : listings.get name = .ok listing)
    (undecoded : methodsOf name listing = .error cause) :
    Asks listings [name] (.error (.input cause) : Except Refusal α) := by
  refine ⟨nofun, fun other member refusal refused => ?_, fun refusal same => ?_⟩
  · obtain rfl := List.mem_singleton.mp member
    rw [known] at refused
    cases refused
  · obtain rfl := Except.error.inj same
    exact ⟨name, List.mem_singleton_self name, .inr ⟨listing, cause, known, undecoded, rfl⟩⟩

theorem cons {listing : Listing} (known : listings.get name = .ok listing)
    (others : Asks listings asked result) : Asks listings (name :: asked) result := by
  refine ⟨fun other member => ?_, fun other member refusal refused => ?_, fun refusal same => ?_⟩
  · cases asked with
    | nil => cases member
    | cons next asked =>
      rcases List.mem_cons.mp member with rfl | member
      · exact ⟨listing, known⟩
      · exact others.answered other member
  · rcases List.mem_cons.mp member with rfl | member
    · rw [known] at refused
      cases refused
    · exact others.refused other member refusal refused
  · obtain ⟨other, member, cause⟩ := others.cause refusal same
    exact ⟨other, List.mem_cons_of_mem name member, cause⟩

theorem map (change : α → β) (asks : Asks listings asked result) : Asks listings asked (result.map change) := by
  refine ⟨asks.answered, fun other member refusal refused => ?_, fun refusal same => ?_⟩
  · rw [asks.refused other member refusal refused]
    rfl
  · cases result with
    | ok value => cases same
    | error other =>
      obtain rfl := Except.error.inj same
      exact asks.cause _ rfl

end Asks

theorem walk_asks (listings : Listings) (seen pending : List String) :
    Asks listings (walk listings seen pending).1 (walk listings seen pending).2 := by
  fun_induction walk listings seen pending with
  | case1 seen => exact .nil []
  | case2 seen name pending old ih => exact ih
  | case3 seen name pending new refusal refused => exact .of_refused refused
  | case4 seen name pending new listing known cause undecoded => exact .of_undecoded known undecoded
  | case5 seen name pending new listing known methods read asked others walked ih =>
    rw [walked] at ih
    exact .cons known (ih.map _)

theorem describe_asks (listings : Listings) (name : String) :
    Asks listings (describe listings name).1 (describe listings name).2 := by
  unfold describe
  split
  · next refusal refused => exact .of_refused refused
  · next listing known => exact .cons known ((walk_asks listings [] [listing.name]).map _)

end Hierarchy

namespace Disassembler

open Hierarchy

variable {tool : Disassembler} {world : World} {target : String}

/-! ## What the tool is run for -/

/-- Of names that are asked for, the tool is run for those whose listing is not kept, and for those that it
has a listing for only once. -/
structure RunsFor (tool : Disassembler) (world : World) (asked ran : List String) : Prop where
  sublist : ran.Sublist asked
  new : ∀ name ∈ ran, world.listings.lookup name = none
  all : ∀ name ∈ asked, world.listings.lookup name = none → name ∈ ran
  once : ∀ name listing, tool.listings.get name = .ok listing → ran.count name ≤ 1

theorem noteAsked_runsFor (tool : Disassembler) (world : World) (asked : List String) :
    Ends (tool.noteAsked asked) world fun result after => result = .ok () ∧
      ∃ ran, after.runs = world.runs ++ ran.map tool.runFor ∧ tool.RunsFor world asked ran := by
  induction asked generalizing world with
  | nil => exact ⟨rfl, [], (List.append_nil _).symm, .slnil, nofun, nofun, fun _ _ _ => Nat.zero_le 1⟩
  | cons name asked ih =>
    cases kept : world.listings.lookup name with
    | some listing =>
      rw [noteAsked_kept (by simp [kept])]
      refine (ih world).mono fun result after ends => ?_
      obtain ⟨done, ran, runs, sublist, new, all, once⟩ := ends
      refine ⟨done, ran, runs, sublist.cons name, new, fun other member none_kept => ?_, once⟩
      rcases List.mem_cons.mp member with rfl | member
      · rw [kept] at none_kept
        cases none_kept
      · exact all other member none_kept
    | none =>
      cases answer : tool.listings.get name with
      | ok listing =>
        rw [noteAsked_new kept answer]
        refine (ih _).mono fun result after ends => ?_
        obtain ⟨done, ran, runs, sublist, new, all, once⟩ := ends
        have still_new {other : String} (member : other ∈ ran) :
            other ≠ name ∧ world.listings.lookup other = none := by
          have absent := new other member
          rw [lookup_ran, Option.or_eq_none_iff] at absent
          exact ⟨fun same => by simp [same] at absent, absent.1⟩
        refine ⟨done, name :: ran, ?_, sublist.cons_cons name, ?_, ?_, ?_⟩
        · rw [runs, List.map_cons, List.append_cons]
          rfl
        · exact List.forall_mem_cons.mpr ⟨kept, fun other member => (still_new member).2⟩
        · intro other member none_kept
          by_cases same : other = name
          · exact same ▸ List.mem_cons_self
          · refine List.mem_cons_of_mem name (all other ((List.mem_cons.mp member).resolve_left same) ?_)
            rw [lookup_ran, none_kept, if_neg same]
            rfl
        · intro other found given
          by_cases same : other = name
          · subst same
            have absent : other ∉ ran := fun member => (still_new member).1 rfl
            rw [List.count_cons_self, List.count_eq_zero_of_not_mem absent]
          · rw [List.count_cons_of_ne (Ne.symm same)]
            exact once other found given
      | error refusal =>
        rw [noteAsked_refused kept answer]
        refine (ih _).mono fun result after ends => ?_
        obtain ⟨done, ran, runs, sublist, new, all, once⟩ := ends
        refine ⟨done, name :: ran, ?_, sublist.cons_cons name, ?_, ?_, ?_⟩
        · rw [runs, List.map_cons, List.append_cons]
          rfl
        · exact List.forall_mem_cons.mpr ⟨kept, new⟩
        · intro other member none_kept
          rcases List.mem_cons.mp member with rfl | member
          · exact List.mem_cons_self
          · exact List.mem_cons_of_mem name (all other member none_kept)
        · intro other found given
          have different : name ≠ other := by
            rintro rfl
            rw [answer] at given
            cases given
          rw [List.count_cons_of_ne different]
          exact once other found given

/-- What a name is answered with by the tool, if no listing is kept for it. -/
theorem get_known_new (new : world.listings.lookup target = none) :
    (tool.known world).get target = tool.listings.get target := by
  simp [known, Listings.keeping, new]

/-- The tool is run for names that it has listings for, and for at most one other. -/
theorem RunsFor.length_le {α : Type} {asked ran : List String} {result : Except Refusal α}
    (runs : tool.RunsFor world asked ran) (asks : Asks (tool.known world) asked result) :
    ran.length ≤ tool.names.length + 1 := by
  rcases List.eq_nil_or_concat asked with rfl | ⟨front, last, rfl⟩
  · rw [List.sublist_nil.mp runs.sublist]
    exact Nat.zero_le _
  · have answered := asks.answered
    rw [List.concat_eq_append, List.dropLast_concat] at answered
    have sublist := runs.sublist
    rw [List.concat_eq_append, List.sublist_append_iff] at sublist
    obtain ⟨before, final, rfl, before_front, final_last⟩ := sublist
    have listed {name : String} (member : name ∈ before) :
        ∃ listing, tool.listings.get name = .ok listing := by
      obtain ⟨listing, known⟩ := answered name (before_front.subset member)
      rw [get_known_new (runs.new name (List.mem_append_left final member))] at known
      exact ⟨listing, known⟩
    have nodup : before.Nodup := by
      refine List.nodup_iff_count_le_one.mpr fun name => ?_
      by_cases member : name ∈ before
      · obtain ⟨listing, known⟩ := listed member
        have once := runs.once name listing known
        rw [List.count_append] at once
        omega
      · rw [List.count_eq_zero_of_not_mem member]
        exact Nat.zero_le 1
    have among : before ⊆ tool.names := by
      intro name member
      obtain ⟨listing, known⟩ := listed member
      exact tool.listings.mem_names known
    have short : before.length ≤ tool.names.length := (List.subperm_of_subset nodup among).length_le
    have single : final.length ≤ 1 := final_last.length_le
    rw [List.length_append]
    omega

/-! ## What the tool answers -/

/-- Each run of a tool is refused by the operating system or has an outcome, and all names for which there
is a listing are known. -/
structure Responds (tool : Disassembler) : Prop where
  runs : ∀ arguments, (∃ refusal, tool.run arguments = .error (.refused (.os refusal))) ∨
    ∃ outcome, tool.run arguments = .ok outcome
  names : ∀ name listing, tool.listingOf name = .ok listing → name ∈ tool.names

/-- A tool succeeds for a name, with a text whose heading names no class. -/
def AnswersNameless (tool : Disassembler) (name : String) : Prop :=
  ∃ outcome, tool.run (tool.arguments name) = .ok outcome ∧ outcome.ok = true ∧
    Listing.IsNameless outcome.stdout

/-- Why the description of a type ends in a fault: for a name there is no listing, or only one whose heading
names no class, or one with a member that is no method. -/
inductive Stops (tool : Disassembler) (world : World) (name : String) : Fault → Prop where
  | refused {cause : InputCause} (new : world.listings.lookup name = none)
      (refused : tool.listingOf name = .error (.input cause)) : Stops tool world name (.input cause)
  | nameless (new : world.listings.lookup name = none) (nameless : tool.AnswersNameless name) :
      Stops tool world name (.header .namelessHeader)
  | undecoded {listing : Listing} {cause : InputCause} (known : (tool.known world).get name = .ok listing)
      (undecoded : methodsOf name listing = .error cause) : Stops tool world name (.input cause)

theorem listingIn_header_iff {name : String} {outcome : Outcome} :
    listingIn name outcome = .error (.header .namelessHeader) ↔
      outcome.ok = true ∧ Listing.IsNameless outcome.stdout := by
  rw [← Listing.read_eq_error_iff]
  unfold listingIn
  by_cases ok : outcome.ok = true
  · rw [ok, if_neg (by decide)]
    cases read : Listing.read outcome.stdout with
    | error fault =>
      cases fault
      exact iff_of_true rfl ⟨rfl, rfl⟩
    | ok listing =>
      refine iff_of_false ?_ nofun
      dsimp only
      split <;> exact nofun
  · rw [if_pos (by simpa using ok)]
    exact iff_of_false nofun fun both => ok both.1

theorem listingOf_header_iff {name : String} :
    tool.listingOf name = .error (.header .namelessHeader) ↔ tool.AnswersNameless name := by
  unfold listingOf AnswersNameless
  split
  · next refusal run =>
    rw [run]
    exact iff_of_false nofun nofun
  · next fault run =>
    rw [run]
    exact iff_of_false nofun nofun
  · next outcome run =>
    rw [run, listingIn_header_iff]
    exact ⟨fun nameless => ⟨outcome, rfl, nameless⟩, fun ⟨_, same, nameless⟩ => Except.ok.inj same ▸ nameless⟩

/-- A tool that responds refuses an input, or answers with a heading that names no class. -/
theorem Responds.cases_refusal (responds : tool.Responds) {name : String} {refusal : Refusal}
    (refused : tool.listingOf name = .error refusal) :
    (∃ cause, refusal = .input cause) ∨ refusal = .header .namelessHeader := by
  unfold listingOf at refused
  rcases responds.runs (tool.arguments name) with ⟨fault, run⟩ | ⟨outcome, run⟩
  · rw [run] at refused
    exact .inl ⟨_, (Except.error.inj refused).symm⟩
  · rw [run] at refused
    dsimp only [listingIn] at refused
    split at refused
    · exact .inl ⟨_, (Except.error.inj refused).symm⟩
    · split at refused
      · next fault read =>
        cases fault
        exact .inr (Except.error.inj refused).symm
      · split at refused
        · exact .inl ⟨_, (Except.error.inj refused).symm⟩
        · cases refused

/-- The known listings of a tool that responds are all that it has. -/
theorem Responds.get_listings (responds : tool.Responds) (name : String) :
    tool.listings.get name = tool.listingOf name := by
  unfold listings Listings.among
  dsimp only
  cases answer : tool.listingOf name with
  | error refusal => rfl
  | ok listing =>
    have known : tool.names.contains name = true :=
      List.contains_iff_mem.mpr (responds.names name listing answer)
    dsimp only
    rw [if_pos known]

theorem Responds.stops (responds : tool.Responds) {name : String} {refusal : Refusal}
    (refused : (tool.known world).get name = .error refusal) :
    world.listings.lookup name = none ∧ tool.Stops world name (faultOf refusal) := by
  cases kept : world.listings.lookup name with
  | some listing =>
    simp [known, Listings.keeping, kept] at refused
  | none =>
    rw [get_known_new kept, responds.get_listings] at refused
    refine ⟨rfl, ?_⟩
    rcases responds.cases_refusal refused with ⟨cause, rfl⟩ | rfl
    · exact .refused kept refused
    · exact .nameless kept (listingOf_header_iff.mp refused)

/-- A description: the runs for all that it asks for, and then what was found. -/
theorem introspector_iff {post : Except Fault Interface → World → Prop} :
    Ends (tool.introspector target) world post ↔
      Ends (tool.noteAsked (describe (tool.known world) target).1 >>= fun _ =>
        located tool.classpath (describe (tool.known world) target).2) world post := by
  unfold introspector
  rw [Ends.bind_iff, Ends.get_iff, onward_ok]
  rfl

/-- Without a class path a description ends as what is found for it. -/
theorem located_nil_ends {result : Except Refusal Found} {post : Except Fault Interface → World → Prop}
    (ends : post ((result.mapError faultOf).map fun found => { found.type with codeSource := none }) world) :
    Ends (located [] result) world post := by
  unfold located
  rw [Ends.bind_iff, Ends.ofExcept_iff]
  cases result with
  | error refusal => exact ends
  | ok found => exact ends

/-! ## Descriptions -/

/-- However a tool responds, it is run for no more names than it has listings for, and one other. The
description that is asked for ends in a type, or where an input is refused; or in the fault of a heading
that names no class, and in that exactly if one of the runs has such an outcome. -/
theorem introspector_answers (tool : Disassembler) (responds : tool.Responds)
    (nowhere : tool.classpath = []) (target : String) (world : World) :
    Ends (tool.introspector target) world fun r after => ∃ ran : List String,
      after.runs = world.runs ++ ran.map tool.runFor ∧ ran.length ≤ tool.names.length + 1 ∧
      ((∃ type, r = .ok type) ∨ ∃ name fault, r = .error fault ∧ tool.Stops world name fault) ∧
      (r = .error (.header .namelessHeader) ↔ ∃ name ∈ ran, tool.AnswersNameless name) := by
  have asks := describe_asks (tool.known world) target
  rw [introspector_iff, nowhere]
  generalize (describe (tool.known world) target).1 = asked at asks ⊢
  generalize (describe (tool.known world) target).2 = result at asks ⊢
  rw [Ends.bind_iff]
  refine (noteAsked_runsFor tool world asked).mono fun noted after ends => ?_
  obtain ⟨rfl, ran, runs, runs_for⟩ := ends
  rw [onward_ok]
  refine located_nil_ends ⟨ran, runs, runs_for.length_le asks, ?_, ?_⟩
  · cases result with
    | ok found => exact .inl ⟨_, rfl⟩
    | error refusal =>
      refine .inr ?_
      obtain ⟨name, -, refused | ⟨listing, cause, known, undecoded, rfl⟩⟩ := asks.cause refusal rfl
      · exact ⟨name, faultOf refusal, rfl, (responds.stops refused).2⟩
      · exact ⟨name, .input cause, rfl, .undecoded known undecoded⟩
  · constructor
    · intro ended
      cases result with
      | ok found => cases ended
      | error refusal =>
        obtain ⟨name, member, refused | ⟨listing, cause, known, undecoded, rfl⟩⟩ := asks.cause refusal rfl
        · obtain ⟨new, stops⟩ := responds.stops refused
          refine ⟨name, runs_for.all name member new, ?_⟩
          have same : faultOf refusal = .header .namelessHeader := Except.error.inj ended
          rw [same] at stops
          cases stops with
          | nameless new nameless => exact nameless
        · cases ended
    · rintro ⟨name, member, nameless⟩
      have refused : (tool.known world).get name = .error (.header .namelessHeader) := by
        rw [get_known_new (runs_for.new name member), responds.get_listings]
        exact listingOf_header_iff.mpr nameless
      rw [asks.refused name (runs_for.sublist.subset member) _ refused]
      rfl

/-- Descriptions by a ring of two interfaces, which is asked for one of them and then for the other. -/
theorem introspector_answers_ring : ring.Responds ∧ ring.classpath = [] ∧
    Ends (ring.introspector "L") untouched fun r after => ∃ ran : List String,
      after.runs = untouched.runs ++ ran.map ring.runFor ∧ ran.length ≤ ring.names.length + 1 ∧
      ((∃ type, r = .ok type) ∨ ∃ name fault, r = .error fault ∧ ring.Stops untouched name fault) ∧
      (r = .error (.header .namelessHeader) ↔ ∃ name ∈ ran, ring.AnswersNameless name) := by
  have responds : ring.Responds := by
    refine ⟨fun arguments => .inr ?_, fun name listing answer => ?_⟩
    · unfold ring
      dsimp only
      split
      · exact ⟨_, rfl⟩
      · split <;> exact ⟨_, rfl⟩
    · have last : (ring.arguments name).getLast? = some name := List.getLast?_concat
      by_cases left : name = "L"
      · simp [ring, left]
      · by_cases right : name = "R"
        · simp [ring, right]
        · have run : ring.run (ring.arguments name) = .ok ⟨1, "", "Error: class not found"⟩ := by
            unfold ring at last ⊢
            dsimp only at last ⊢
            rw [last, if_neg (by simpa using left), if_neg (by simpa using right)]
          rw [listingOf, run] at answer
          cases answer
  exact ⟨responds, rfl, introspector_answers ring responds rfl "L" untouched⟩

/-- A tool that lists every type with a heading whose only word is in angle brackets. -/
def anonymous : Disassembler where
  command := "javap"
  classpath := []
  run _ := .ok ⟨0, "class <T>\n", ""⟩
  names := []

/-- A heading that names no class is neither described nor refused as an input. -/
theorem anonymous_strays : anonymous.Responds ∧
    Ends (anonymous.introspector "T") untouched fun r _ => r = .error (.header .namelessHeader) ∧
      ¬ ((∃ type, r = .ok type) ∨ ∃ cause, r = .error (.input cause)) := by
  have read : Listing.read "class <T>\n" = .error .namelessHeader := by decide +kernel
  have refused (name : String) : anonymous.listingOf name = .error (.header .namelessHeader) := by
    rw [listingOf_header_iff]
    exact ⟨_, rfl, rfl, Listing.read_eq_error_iff.mp read⟩
  have responds : anonymous.Responds := by
    refine ⟨fun arguments => .inr ⟨_, rfl⟩, fun name listing answer => ?_⟩
    rw [refused] at answer
    cases answer
  have known : (anonymous.known untouched).get "T" = .error (.header .namelessHeader) := by
    rw [get_known_new rfl, responds.get_listings, refused]
  have described : describe (anonymous.known untouched) "T" =
      (["T"], .error (.header .namelessHeader)) := by
    unfold describe
    split
    · next refusal same =>
      rw [← Except.error.inj (known.symm.trans same)]
    · next listing same => cases known.symm.trans same
  refine ⟨responds, ?_⟩
  rw [introspector_iff, described, Ends.bind_iff]
  refine (noteAsked_runsFor anonymous untouched ["T"]).mono fun noted after ends => ?_
  obtain ⟨rfl, -⟩ := ends
  rw [onward_ok]
  refine located_nil_ends ⟨rfl, ?_⟩
  rintro (⟨type, same⟩ | ⟨cause, same⟩)
  · cases same
  · cases same

end Disassembler
end JavaStubs

import JavaStubs.Java.Listing
import JavaStubs.Stage
import JavaStubs.Tool.Outcome

/-!
The methods of a compiled interface, its own and the inherited ones. `Listings` answers finitely
many binary names with the listing of a class; `walk` goes through the supertypes of a type depth
first, each name once, and collects the methods in the order in which it meets them. Of methods
with the same name and parameter types the first one met counts (`firstPerKey`).
-/
namespace JavaStubs

/-- Why a compiled type could not be described. -/
inductive Refusal where
  | input (cause : InputCause)
  | header (fault : Listing.Fault)
  /-- The disassembler has no outcome, for another reason than that it cannot be run. -/
  | noOutcome (fault : ToolFault)
  deriving Repr

/-- Listings of classes by binary name. All names that are answered with a listing are among
`names`. -/
structure Listings where
  get : String → Except Refusal Listing
  names : List String
  mem_names : ∀ {name listing}, get name = .ok listing → name ∈ names

namespace Listings

/-- Listings in which those already kept take precedence. -/
def keeping (kept : List (String × Listing)) (listings : Listings) : Listings where
  get name := match kept.lookup name with
    | some listing => .ok listing
    | none => listings.get name
  names := kept.map Prod.fst ++ listings.names
  mem_names := by
    intro name listing h
    split at h
    · next found =>
      obtain ⟨before, after, rfl, _⟩ := List.lookup_eq_some_iff.1 found
      simp
    · exact List.mem_append_right _ (listings.mem_names h)

/-- The listings that a function gives, as far as the names are in a list; any other name is
refused. -/
def among (names : List String) (get : String → Except Refusal Listing) : Listings where
  get name := match get name with
    | .error refusal => .error refusal
    | .ok listing =>
      if names.contains name then .ok listing else .error (.input (.unrecognised name))
  names := names
  mem_names := by
    intro name listing h
    split at h
    · simp at h
    · split at h
      · next found => simpa using found
      · simp at h

end Listings

namespace Hierarchy

/-- The flags of members that an implementing class does not concern. -/
def passedOver : List String := ["ACC_STATIC", "ACC_SYNTHETIC", "ACC_BRIDGE", "ACC_PRIVATE"]

/-- Whether a member is a method that an implementing class may have to define. -/
def isEligible (member : Member) : Bool := !passedOver.any member.flags.contains

/-- Parameters of given types, named by their places. -/
def numbered (types : List TypeName) : List Parameter :=
  types.zipIdx.map fun (type, place) => ⟨type, s!"arg{place}"⟩

/-- The method that a member of a type is. -/
def methodOf (type : String) (member : Member) : Except InputCause Method :=
  match MethodDescriptor.decode member.descriptor with
  | .error cause => .error (.badMember type member.name member.descriptor cause)
  | .ok (parameters, returned) => .ok
    { name := member.name
      returnType := returned
      parameters := numbered parameters
      isAbstract := member.flags.contains "ACC_ABSTRACT" }

/-- The eligible members of a type as methods. -/
def methodsOf (type : String) (listing : Listing) : Except InputCause (List Method) :=
  (listing.members.filter isEligible).mapM (methodOf type)

/-- The types whose members a type inherits: only interfaces are followed up. -/
def parents (listing : Listing) : List String :=
  if listing.isInterface then listing.supertypes else []

/-- The names of a list that a name outside of `seen` leaves to be seen are fewer once it is
seen. -/
theorem length_unseen_lt {names seen : List String} {name : String} (known : name ∈ names)
    (new : name ∉ seen) :
    (names.filter (!(name :: seen).contains ·)).length <
      (names.filter (!seen.contains ·)).length := by
  have split : names.filter (!(name :: seen).contains ·) =
      (names.filter (!seen.contains ·)).filter (· != name) := by
    rw [List.filter_filter]
    exact List.filter_congr fun other _ => by
      rw [List.contains_cons, Bool.not_or]
      rfl
  rw [split, List.length_filter_lt_length_iff_exists]
  exact ⟨name, List.mem_filter.2 ⟨known, by simpa using new⟩, by simp⟩

/-- The names asked for and the methods met on the way through types still `pending` and their
supertypes, depth first, without the types already seen. -/
def walk (listings : Listings) (seen pending : List String) :
    List String × Except Refusal (List Method) :=
  match pending with
  | [] => ([], .ok [])
  | name :: pending =>
    if _new : name ∈ seen then walk listings seen pending
    else match _known : listings.get name with
      | .error refusal => ([name], .error refusal)
      | .ok listing =>
        match methodsOf name listing with
        | .error cause => ([name], .error (.input cause))
        | .ok methods =>
          let (asked, others) := walk listings (name :: seen) (parents listing ++ pending)
          (name :: asked, others.map (methods ++ ·))
termination_by ((listings.names.filter (!seen.contains ·)).length, pending.length)
decreasing_by
  · exact Prod.Lex.right _ (by simp)
  · exact Prod.Lex.left _ _ (length_unseen_lt (listings.mem_names _known) _new)

/-- The methods of a list without those whose key came before. -/
def firstPerKey : List Method → List Method
  | [] => []
  | method :: rest => method :: (firstPerKey rest).filter (·.key != method.key)

/-- A described type, and its binary name. -/
structure Found where
  binaryName : String
  type : Interface
  deriving DecidableEq, Repr

/-- The type of a binary name, from the listing for that name and its methods. -/
def found (listing : Listing) (methods : List Method) : Found :=
  let name := listing.name.toList
  { binaryName := listing.name
    type := Interface.describe
      (String.ofList (Text.beforeLast '.' name))
      (String.ofList (Text.afterLast '$' (Text.afterLast '.' name)))
      (MethodDescriptor.canonicalName listing.name)
      (firstPerKey methods)
      listing.isInterface
      (listing.privateInner.contains listing.name)
      none }

/-- The names asked for to describe a type, and the type. -/
def describe (listings : Listings) (name : String) : List String × Except Refusal Found :=
  match listings.get name with
  | .error refusal => ([name], .error refusal)
  | .ok listing =>
    let (asked, methods) := walk listings [] [listing.name]
    (name :: asked, methods.map (found listing))

end Hierarchy
end JavaStubs

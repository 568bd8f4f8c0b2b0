import Mathlib.Data.List.Induction
import JavaStubs.Proofs.Files.Directories
import JavaStubs.Proofs.Files.Writing

/-!
Paths below a directory. As long as there are no links below it, they lead to nothing outside of it,
and directories and files that are made at their ends lie in it.
-/
namespace JavaStubs

/-- A location lies below a directory. -/
def Location.IsBelow (directory location : Location) : Prop :=
  directory <:+ location ∧ location ≠ directory

namespace Disk

open FileTree (IsTree)

variable {disk before after : Disk} {base path : Path} {name : String} {names : List String}
  {top location directory : Location}

/-- There is no link below a directory. -/
def LinkFree (disk : Disk) (top : Location) : Prop :=
  ∀ location target, top.IsBelow location → disk.tree.get? location ≠ some (.link target)

theorem isBelow_append {names : List String} (some_names : names ≠ []) (top : Location) :
    top.IsBelow (names ++ top) :=
  ⟨List.suffix_append names top, by simpa using some_names⟩

/-- A path with more names. -/
def pathBelow (base : Path) (names : List String) : Path := names.foldl Path.child base

theorem pathBelow_concat (names : List String) (name : String) :
    pathBelow base (names ++ [name]) = (pathBelow base names).child name := by
  rw [pathBelow, List.foldl_append]
  rfl

theorem pathBelow_eq (named : ∀ name ∈ names, Path.IsName name) :
    pathBelow base names = ⟨base.anchor, base.names ++ names⟩ := by
  induction names using List.reverseRecOn with
  | nil => simp [pathBelow]
  | append_singleton names name ih =>
    have others := ih fun other member => named other (by simp [member])
    rw [pathBelow_concat, Path.child_name (named name (by simp)), others, List.append_assoc]

theorem pathBelow_isPlain (plain : base.IsPlain) (named : ∀ name ∈ names, Path.IsName name) :
    (pathBelow base names).IsPlain := by
  rw [pathBelow_eq named]
  refine ⟨plain.absolute, fun name member => ?_⟩
  rcases List.mem_append.mp member with member | member
  · exact plain.named name member
  · exact named name member

/-- Without links on the way, names below a directory lead to the location that they spell. -/
theorem LeadsInto.below (leads : disk.LeadsInto (pathBelow base names) location)
    (into : disk.LeadsInto base top) (free : disk.LinkFree top)
    (named : ∀ name ∈ names, Path.IsName name) : location = names.reverse ++ top := by
  induction names using List.reverseRecOn generalizing location with
  | nil => exact leads.unique into
  | append_singleton names name ih =>
    rw [pathBelow_concat] at leads
    obtain ⟨directory, above, place⟩ := leads.of_child (named name (by simp))
    obtain rfl := ih above fun other member => named other (by simp [member])
    have no_link := fun target => free (name :: (names.reverse ++ top)) target
      (@isBelow_append (name :: names.reverse) (by simp) top)
    rw [(place no_link).1]
    simp

/-! ## Changes below a directory -/

/-- A change that stays below a directory. -/
structure StaysBelow (top : Location) (before after : Disk) : Prop where
  tree : after.tree.IsTree
  same : SameBut top.IsBelow before after

theorem StaysBelow.trans {middle : Disk} (first : StaysBelow top before middle)
    (second : StaysBelow top middle after) : StaysBelow top before after :=
  ⟨second.tree, first.same.trans second.same⟩

/-- A change that stays below a directory and makes no link there. -/
structure Inside (base : Path) (top : Location) (before after : Disk) : Prop extends
    StaysBelow top before after where
  free : after.LinkFree top
  into : after.LeadsInto base top

theorem Inside.trans {middle : Disk} (first : Inside base top before middle)
    (second : Inside base top middle after) : Inside base top before after :=
  ⟨first.toStaysBelow.trans second.toStaysBelow, second.free, second.into⟩

/-- What was new on the way to a path below a directory lies below it. -/
private theorem isBelow_of_new (plain : base.IsPlain) (root : before.tree.IsTree)
    (into : before.LeadsInto base top) (kept : KeepsRoutes before after) (free : after.LinkFree top)
    (named : ∀ name ∈ names, Path.IsName name) {start : List String}
    (part : start <+: base.names ++ names) (leads : after.LeadsInto ⟨base.anchor, start⟩ location)
    (new : before.tree.get? location = none) : top.IsBelow location := by
  have into_still := into.kept root plain.absolute kept
  rcases List.prefix_or_prefix_of_prefix part (List.prefix_append base.names names) with short | long
  · -- what a part of the path to the directory leads to was there before
    exfalso
    obtain ⟨rest, whole⟩ := short
    have there : ∃ place, before.LeadsInto ⟨base.anchor, start⟩ place := by
      by_cases none : rest = []
      · subst none
        rw [List.append_nil] at whole
        subst whole
        exact ⟨top, into⟩
      · unfold LeadsInto at into
        rw [← whole] at into
        exact FileTree.resolve_of_append none into
    obtain ⟨place, leads_before⟩ := there
    have absolute : Path.isAbsolute ⟨base.anchor, start⟩ = true := plain.absolute
    obtain rfl := leads.unique (leads_before.kept root absolute kept)
    simp [leads_before.isDirectory root absolute] at new
  · obtain ⟨more, rfl⟩ := long
    have more_named : ∀ name ∈ more, Path.IsName name := fun name member =>
      named name (((List.prefix_append_right_inj base.names).mp part).subset member)
    rw [← pathBelow_eq more_named] at leads
    obtain rfl := leads.below into_still free more_named
    refine isBelow_append (fun none => ?_) top
    rw [none, List.nil_append, into.isDirectory root plain.absolute] at new
    cases new

theorem makeDirectories_inside (root : disk.tree.IsTree) (plain : base.IsPlain)
    (into : disk.LeadsInto base top) (free : disk.LinkFree top)
    (named : ∀ name ∈ names, Path.IsName name) :
    Ends (makeDirectories (pathBelow base names)) disk fun _ after => Inside base top disk after := by
  refine (makeDirectories_ends root (pathBelow_isPlain plain named)).mono fun r after reached => ?_
  obtain ⟨tree, grown, -⟩ := reached
  have kept := grown.keepsRoutes
  have free_still : after.LinkFree top := fun location target below there =>
    free location target below (grown.was_there nofun there)
  refine ⟨⟨tree, fun location outside => ?_⟩, free_still, into.kept root plain.absolute kept⟩
  rcases grown location with same | ⟨new, -, start, part, leads⟩
  · exact same
  · rw [pathBelow_eq named] at part leads
    exact absurd (isBelow_of_new plain root into kept free_still named part leads new) outside

/-- The place of a file below a directory lies below it. -/
theorem isBelow_of_places (into : disk.LeadsInto base top) (free : disk.LinkFree top)
    (named : ∀ name ∈ names, Path.IsName name) (is_name : Path.IsName name)
    (places : disk.Places ((pathBelow base names).child name) location) : top.IsBelow location := by
  obtain ⟨directory, leads, rfl⟩ := (places_child is_name).mp places
  rw [leads.below into free named]
  exact @isBelow_append (name :: names.reverse) (by simp) top

theorem write_inside (content : Content) (root : disk.tree.IsTree) (plain : base.IsPlain)
    (into : disk.LeadsInto base top) (free : disk.LinkFree top)
    (named : ∀ name ∈ names, Path.IsName name) (is_name : Path.IsName name) :
    Ends (write ((pathBelow base names).child name) content) disk fun _ after =>
      Inside base top disk after := by
  have below {location : Location} := @isBelow_of_places disk base name names top location into free named
    is_name
  have no_link : disk.EndsInNoLink ((pathBelow base names).child name) := fun location places target =>
    free location target (below places)
  refine (write_ends root ((pathBelow_isPlain plain named).child is_name) no_link).mono
    fun r after ends => ?_
  cases r with
  | error fault =>
    obtain rfl : after = disk := ends
    exact ⟨⟨root, .refl after⟩, free, into⟩
  | ok location =>
    obtain ⟨places, written, -⟩ := ends
    refine ⟨⟨written.tree, written.others.mono ?_⟩, ?_, into.kept root plain.absolute written.keepsRoutes⟩
    · rintro _ rfl
      exact below places
    · intro other target inside there
      by_cases same : other = location
      · subst same
        rcases written.is with file | ⟨-, sink⟩
        · rw [file] at there
          cases there
        · rw [sink] at there
          cases there
      · exact free other target inside ((written.others other same).1.symm.trans there)

/-! ## Files in a bare directory -/

/-- Below a directory there are only directories. -/
def IsBare (disk : Disk) (top : Location) : Prop :=
  ∀ location entry, top.IsBelow location → disk.tree.get? location = some entry → entry = .directory

/-- A path leads to a file, besides which there are only directories below a directory. -/
def LoneFile (disk : Disk) (top : Location) (path : Path) (content : Content) : Prop :=
  ∃ place, disk.find .look path = .ok (.entry place (.file content)) ∧
    ∀ location entry, top.IsBelow location → location ≠ place → disk.tree.get? location = some entry →
      entry = .directory

theorem IsBare.linkFree (bare : disk.IsBare top) : disk.LinkFree top := fun location target below there => by
  cases bare location _ below there

theorem IsBare.grown (bare : before.IsBare top) (grown : Grown path before after) : after.IsBare top := by
  intro location entry below held
  rcases grown location with same | ⟨-, made, -⟩
  · exact bare location entry below (same.1 ▸ held)
  · rw [made] at held
    exact (Option.some.inj held).symm

/-- Where there are no links and no devices below a directory, a file that is written below it is found
there. -/
theorem write_leads (root : disk.tree.IsTree) (plain : base.IsPlain) (into : disk.LeadsInto base top)
    (free : disk.LinkFree top)
    (no_device : ∀ location, top.IsBelow location → disk.tree.get? location ≠ some .sink)
    (named : ∀ name ∈ names, Path.IsName name) (is_name : Path.IsName name) :
    Ends (write ((pathBelow base names).child name) content) disk fun r after =>
      ∀ location, r = .ok location → top.IsBelow location ∧ Written location content disk after ∧
        after.find .look ((pathBelow base names).child name) = .ok (.entry location (.file content)) := by
  have plain_above := pathBelow_isPlain plain named
  have below {location : Location} := @isBelow_of_places disk base name names top location into free named
    is_name
  have no_link : disk.EndsInNoLink ((pathBelow base names).child name) := fun location places target =>
    free location target (below places)
  refine (write_ends root (plain_above.child is_name) no_link).mono fun r after ends location done => ?_
  subst done
  obtain ⟨places, written, found, reached, rfl⟩ := ends
  have inside := below places
  have file : after.tree.get? found.location = some (.file content) := by
    rcases written.is with file | ⟨sink, -⟩
    · exact file
    · exact absurd sink (no_device _ inside)
  have alike : StartsAlike disk after ((pathBelow base names).child name) :=
    .of_absolute (plain_above.child is_name).absolute
  exact ⟨inside, written, find_of_written root alike written.keepsRoutes file nofun reached⟩

theorem write_loneFile (root : disk.tree.IsTree) (plain : base.IsPlain) (into : disk.LeadsInto base top)
    (bare : disk.IsBare top) (named : ∀ name ∈ names, Path.IsName name) (is_name : Path.IsName name) :
    Ends (write ((pathBelow base names).child name) content) disk fun r after =>
      ∀ location, r = .ok location → after.LoneFile top ((pathBelow base names).child name) content := by
  have no_device (location : Location) (below : top.IsBelow location) :
      disk.tree.get? location ≠ some .sink := fun sink => by
    cases bare location _ below sink
  refine (write_leads root plain into bare.linkFree no_device named is_name).mono
    fun r after ends location done => ?_
  obtain ⟨-, written, there⟩ := ends location done
  refine ⟨location, there, fun other entry below different held => bare other entry below ?_⟩
  exact (written.others other different).1.symm.trans held

end Disk
end JavaStubs

import JavaStubs.Files.Disk
import JavaStubs.Proofs.Files.Names

/-!
Where path names lead. A name behind names that lead to a directory is looked up there, and a route
stays as it is as long as the directories and links on it do.
-/
namespace JavaStubs

namespace FileTree

/-- All that lies in a tree lies in a directory, by a name. -/
def IsTree (tree : FileTree) : Prop :=
  ∀ name directory, tree.get? (name :: directory) ≠ none →
    tree.get? directory = some .directory ∧ Path.IsName name ∧ Path.hasNul name = false

/-- What lies in a tree lies at an absolute path of nothing but names. -/
theorem IsTree.isPlain_path {tree : FileTree} {location : Location} (root : tree.IsTree)
    (there : tree.get? location ≠ none) : location.path.IsPlain := by
  refine ⟨rfl, fun name member => ?_⟩
  have inside : name ∈ location := List.mem_reverse.mp member
  induction location with
  | nil => cases inside
  | cons last directory ih =>
    obtain ⟨above, named, -⟩ := root last directory there
    rcases List.mem_cons.mp inside with rfl | inside
    · exact named
    · exact ih (by simp [above]) (List.mem_reverse.mpr inside) inside

/-- What is found at a location. -/
def found (tree : FileTree) (location : Location) : Found :=
  match tree.get? location with
  | none => .vacant location
  | some entry => .entry location entry

@[simp] theorem found_location (tree : FileTree) (location : Location) :
    (tree.found location).location = location := by
  unfold found
  split <;> rfl

/-- An entry that routes neither lead through nor lead on from. -/
def IsLeaf (entry : Entry) : Prop := entry ≠ .directory ∧ ∀ target, entry ≠ .link target

variable {tree other : FileTree} {enters enters' : Location → Bool} {purpose : Purpose} {links : Nat}
  {location : Location}

/-! ## Rules of `resolve` -/

section Rules
variable {name target : String} {rest : List String}

theorem resolve_directory (nonempty : name ≠ "") (entered : ¬ (!enters location) = true)
    (not_dot : name ≠ ".") (not_dots : name ≠ "..") (on : ¬ (purpose = .write ∧ rest = [""]))
    (short : ¬ longestName < name.utf8ByteSize) (held : tree.get? (name :: location) = some .directory) :
    tree.resolve enters purpose links location (name :: rest) =
      tree.resolve enters purpose links (name :: location) rest := by
  rw [resolve, if_neg nonempty, if_neg entered, if_neg not_dot, if_neg not_dots, if_neg on,
    if_neg short, held]

theorem resolve_link (nonempty : name ≠ "") (entered : ¬ (!enters location) = true)
    (not_dot : name ≠ ".") (not_dots : name ≠ "..") (on : ¬ (purpose = .write ∧ rest = [""]))
    (short : ¬ longestName < name.utf8ByteSize)
    (held : tree.get? (name :: location) = some (.link target))
    (followed : ¬ (rest.isEmpty && decide (purpose = .entry)) = true) :
    tree.resolve enters purpose (links + 1) location (name :: rest) =
      tree.resolve enters purpose links (linkStart location target) (linkNames target ++ rest) := by
  rw [resolve, if_neg nonempty, if_neg entered, if_neg not_dot, if_neg not_dots, if_neg on,
    if_neg short, held]
  simp only [if_neg followed]

/-- The last name leads to what lies there, if that is no link. -/
theorem resolve_end (nonempty : name ≠ "") (entered : ¬ (!enters location) = true)
    (not_dot : name ≠ ".") (not_dots : name ≠ "..") (on : ¬ (purpose = .write ∧ rest = [""]))
    (short : ¬ longestName < name.utf8ByteSize) (last : rest.isEmpty = true)
    (no_link : ∀ target, tree.get? (name :: location) ≠ some (.link target)) :
    tree.resolve enters purpose links location (name :: rest) = .ok (tree.found (name :: location)) := by
  rw [resolve, if_neg nonempty, if_neg entered, if_neg not_dot, if_neg not_dots, if_neg on, if_neg short, found]
  cases held : tree.get? (name :: location) with
  | none => simp only [if_pos last]
  | some entry =>
    cases entry with
    | directory =>
      obtain rfl := List.isEmpty_iff.mp last
      dsimp only
      rw [resolve]
    | link target => exact absurd held (no_link target)
    | _ => simp only [if_pos last]

end Rules

private theorem on_of_append {names rest : List String}
    (goes : purpose = .look ∨ rest ≠ [] ∧ rest ≠ [""]) :
    ¬ (purpose = .write ∧ names ++ rest = [""]) := by
  rintro ⟨rfl, last⟩
  obtain goes | ⟨some_rest, goes⟩ := goes
  · cases goes
  · cases names with
    | nil => exact goes last
    | cons name names => exact some_rest (List.append_eq_nil_iff.mp (List.cons.inj last).2).2

/-- Names that lead to a directory lead on from there, with some of the links used up. -/
theorem resolve_append {names : List String} {directory : Location}
    (leads : tree.resolve enters .look links location names = .ok (.entry directory .directory)) :
    ∃ left, ∀ purpose rest, purpose = .look ∨ rest ≠ [] ∧ rest ≠ [""] →
      tree.resolve enters purpose links location (names ++ rest) =
        tree.resolve enters purpose left directory rest := by
  fun_induction FileTree.resolve tree enters .look links location names with
  | case1 links location =>
    cases leads
    exact ⟨links, fun _ _ _ => rfl⟩
  | case2 links location names ih =>
    obtain ⟨left, same⟩ := ih leads
    exact ⟨left, fun purpose rest goes => resolve_blank.trans (same purpose rest goes)⟩
  | case4 links location names entered _ ih =>
    obtain ⟨left, same⟩ := ih leads
    exact ⟨left, fun purpose rest goes => (resolve_dot entered).trans (same purpose rest goes)⟩
  | case5 links location names entered _ _ ih =>
    obtain ⟨left, same⟩ := ih leads
    exact ⟨left, fun purpose rest goes => (resolve_dots entered).trans (same purpose rest goes)⟩
  | case10 links location name names nonempty entered not_dot not_dots _ short held ih =>
    obtain ⟨left, same⟩ := ih leads
    refine ⟨left, fun purpose rest goes => ?_⟩
    exact (resolve_directory nonempty entered not_dot not_dots (on_of_append goes) short held).trans
      (same purpose rest goes)
  | case13 location name names nonempty entered not_dot not_dots _ short target held _ links ih =>
    obtain ⟨left, same⟩ := ih leads
    refine ⟨left, fun purpose rest goes => ?_⟩
    have followed : ¬ ((names ++ rest).isEmpty && decide (purpose = .entry)) = true := by
      rcases goes with rfl | ⟨some_rest, -⟩
      · simp
      · simp [some_rest]
    rw [List.cons_append, resolve_link nonempty entered not_dot not_dots (on_of_append goes) short held
      followed, ← List.append_assoc, same purpose rest goes]
  | case14 links location name names _ _ _ _ _ _ entry other =>
    cases leads
    exact absurd rfl other
  | _ => cases leads

/-- Names can only lead on if they lead to a directory. -/
theorem resolve_of_append {names rest : List String} {found : Found} (some_rest : rest ≠ [])
    (leads : tree.resolve enters purpose links location (names ++ rest) = .ok found) :
    ∃ directory, tree.resolve enters .look links location names = .ok (.entry directory .directory) := by
  have some_more (names : List String) : names ++ rest ≠ [] := fun none =>
    some_rest (List.append_eq_nil_iff.mp none).2
  fun_induction FileTree.resolve tree enters .look links location names with
  | case1 links location => exact ⟨location, rfl⟩
  | case2 links location names ih => exact ih (resolve_blank.symm.trans leads)
  | case4 links location names entered _ ih => exact ih ((resolve_dot entered).symm.trans leads)
  | case5 links location names entered _ _ ih => exact ih ((resolve_dots entered).symm.trans leads)
  | case10 links location name names nonempty entered not_dot not_dots _ short held ih =>
    by_cases on : purpose = .write ∧ names ++ rest = [""]
    · simp [resolve, nonempty, entered, not_dot, not_dots, on] at leads
    · exact ih ((resolve_directory nonempty entered not_dot not_dots on short held).symm.trans leads)
  | case13 location name names nonempty entered not_dot not_dots _ short target held _ links ih =>
    by_cases on : purpose = .write ∧ names ++ rest = [""]
    · simp [resolve, nonempty, entered, not_dot, not_dots, on] at leads
    · have followed : ¬ ((names ++ rest).isEmpty && decide (purpose = .entry)) = true := by
        simp [some_more names]
      rw [List.cons_append, resolve_link nonempty entered not_dot not_dots on short held followed,
        ← List.append_assoc] at leads
      exact ih leads
  | _ =>
    rw [List.cons_append, resolve] at leads
    grind

private theorem get?_tail (root : tree.IsTree) (there : tree.get? location = some .directory) :
    tree.get? location.tail = some .directory := by
  cases location with
  | nil => rfl
  | cons name directory => exact (root name directory (by simp [there])).1

private theorem get?_linkStart (target : String) (there : tree.get? location = some .directory) :
    tree.get? (linkStart location target) = some .directory := by
  unfold linkStart
  split
  · rfl
  · exact there

/-- What names lead to lies where they lead. -/
theorem get?_of_resolve {names : List String} {place : Location} {entry : Entry} (root : tree.IsTree)
    (start : tree.get? location = some .directory)
    (leads : tree.resolve enters purpose links location names = .ok (.entry place entry)) :
    tree.get? place = some entry := by
  fun_induction FileTree.resolve tree enters purpose links location names with
  | case1 links location =>
    cases leads
    exact start
  | case2 links location names ih => exact ih start leads
  | case4 links location names entered _ ih => exact ih start leads
  | case5 links location names entered _ _ ih => exact ih (get?_tail root start) leads
  | case10 links location name names _ _ _ _ _ _ there ih => exact ih there leads
  | case13 location name names _ _ _ _ _ _ target there followed links ih =>
    exact ih (get?_linkStart target start) leads
  | case11 links location name names _ _ _ _ _ _ target there last =>
    cases leads
    exact there
  | case14 links location name names _ _ _ _ _ _ entry _ _ there last =>
    cases leads
    exact there
  | _ => cases leads

/-- What names lead to lies in a directory, or would lie there. -/
theorem above_of_resolve {names : List String} {found : Found} (root : tree.IsTree)
    (start : tree.get? location = some .directory)
    (leads : tree.resolve enters purpose links location names = .ok found) :
    tree.get? found.location.tail = some .directory := by
  fun_induction FileTree.resolve tree enters purpose links location names with
  | case1 links location =>
    cases leads
    exact get?_tail root start
  | case2 links location names ih => exact ih start leads
  | case4 links location names _ _ ih => exact ih start leads
  | case5 links location names _ _ _ ih => exact ih (get?_tail root start) leads
  | case10 links location name names _ _ _ _ _ _ there ih => exact ih there leads
  | case13 location name names _ _ _ _ _ _ target _ _ links ih => exact ih (get?_linkStart target start) leads
  | case8 =>
    cases leads
    exact start
  | case11 =>
    cases leads
    exact start
  | case14 =>
    cases leads
    exact start
  | _ => cases leads

/-- The names that a link leads through are undivided. -/
theorem undivided_of_mem_linkNames {target name : String} (member : name ∈ linkNames target) :
    '/' ∉ name.toList := by
  unfold linkNames at member
  rcases List.mem_append.mp member with inside | last
  · by_cases dots : name = ".."
    · subst dots
      decide
    · exact (Path.isName_of_mem_namesOf inside dots).undivided
  · split at last
    · next blank =>
      obtain rfl := List.mem_singleton.mp last
      rcases Bool.or_eq_true .. |>.mp blank with same | same
      · rw [beq_iff_eq.mp same]
        decide
      · rw [beq_iff_eq.mp same]
        decide
    · cases last

/-- Where undivided names lead to a place at which there is nothing, that has a name. -/
theorem isName_of_resolve {names : List String} {name : String} {directory : Location}
    (undivided : ∀ name ∈ names, '/' ∉ name.toList)
    (leads : tree.resolve enters purpose links location names = .ok (.vacant (name :: directory))) :
    Path.IsName name := by
  have rest {first : String} {names : List String} (undivided : ∀ name ∈ first :: names, '/' ∉ name.toList) :
      ∀ name ∈ names, '/' ∉ name.toList := fun name member => undivided name (List.mem_cons_of_mem _ member)
  fun_induction FileTree.resolve tree enters purpose links location names with
  | case2 links location names ih => exact ih (rest undivided) leads
  | case4 links location names _ _ ih => exact ih (rest undivided) leads
  | case5 links location names _ _ _ ih => exact ih (rest undivided) leads
  | case10 links location name names _ _ _ _ _ _ _ ih => exact ih (rest undivided) leads
  | case13 location name names _ _ _ _ _ _ target _ _ links ih =>
    refine ih (fun other member => ?_) leads
    rcases List.mem_append.mp member with inside | inside
    · exact undivided_of_mem_linkNames inside
    · exact rest undivided other inside
  | case8 links location last names nonempty _ not_dot not_dots =>
    cases leads
    exact ⟨nonempty, not_dot, not_dots, undivided _ List.mem_cons_self⟩
  | _ => cases leads

/-- A route stays as long as the directories and links on it do. If no link was at its end, there may be anything
else, or nothing, at it. -/
theorem resolve_of_alike {names : List String} {found : Found}
    (root : tree.IsTree) (start : tree.get? location = some .directory)
    (directories : ∀ l, tree.get? l = some .directory →
      other.get? l = some .directory ∧ enters' l = enters l)
    (kept : ∀ l target, tree.get? l = some (.link target) → other.get? l = some (.link target))
    (no_link : (∀ target, tree.get? found.location ≠ some (.link target)) →
      ∀ target, other.get? found.location ≠ some (.link target))
    (leads : tree.resolve enters purpose links location names = .ok found) :
    other.resolve enters' purpose links location names = .ok (other.found found.location) := by
  have entered' (l : Location) (there : tree.get? l = some .directory)
      (entered : ¬ (!enters l) = true) : ¬ (!enters' l) = true := by
    rwa [(directories l there).2]
  fun_induction FileTree.resolve tree enters purpose links location names with
  | case1 links location =>
    cases leads
    rw [resolve, found, Found.location, (directories _ start).1]
  | case2 links location names ih => exact resolve_blank.trans (ih start leads)
  | case4 links location names entered _ ih =>
    exact (resolve_dot (entered' location start entered)).trans (ih start leads)
  | case5 links location names entered _ _ ih =>
    exact (resolve_dots (entered' location start entered)).trans (ih (get?_tail root start) leads)
  | case10 links location name names nonempty entered not_dot not_dots on short there ih =>
    exact (resolve_directory nonempty (entered' location start entered) not_dot not_dots on short
      (directories _ there).1).trans (ih there leads)
  | case13 location name names nonempty entered not_dot not_dots on short target there followed links
      ih =>
    exact (resolve_link nonempty (entered' location start entered) not_dot not_dots on short
      (kept _ _ there) followed).trans (ih (get?_linkStart target start) leads)
  | case11 links location name names nonempty entered not_dot not_dots on short target there last =>
    cases leads
    rw [resolve, if_neg nonempty, if_neg (entered' location start entered), if_neg not_dot,
      if_neg not_dots, if_neg on, if_neg short, found, Found.location, kept _ _ there]
    simp only [if_pos last]
  | case8 links location name names nonempty entered not_dot not_dots on short vacant last =>
    cases leads
    have free := no_link fun target there => by
      rw [Found.location, vacant] at there
      cases there
    exact resolve_end nonempty (entered' location start entered) not_dot not_dots on short last free
  | case14 links location name names nonempty entered not_dot not_dots on short entry _ other_entry there last =>
    cases leads
    have free := no_link fun target also => by
      rw [Found.location, there] at also
      exact other_entry target (Option.some.inj also)
    exact resolve_end nonempty (entered' location start entered) not_dot not_dots on short last free
  | _ => cases leads

/-- A route to an entry stays as long as the directories and links on it do. If it leads to neither, there may be
something else, or nothing, at its end. -/
theorem resolve_of_kept {names : List String} {place : Location} {entry : Entry}
    (root : tree.IsTree) (start : tree.get? location = some .directory)
    (directories : ∀ l, tree.get? l = some .directory →
      other.get? l = some .directory ∧ enters' l = enters l)
    (kept : ∀ l target, tree.get? l = some (.link target) → other.get? l = some (.link target))
    (leaf : IsLeaf entry → ∀ held, other.get? place = some held → IsLeaf held)
    (leads : tree.resolve enters purpose links location names = .ok (.entry place entry)) :
    other.resolve enters' purpose links location names = .ok (other.found place) := by
  have there := get?_of_resolve root start leads
  refine resolve_of_alike root start directories kept (fun free target also => ?_) leads
  have no_link : ∀ target, entry ≠ .link target := fun target link => free target (link ▸ there)
  by_cases directory : entry = .directory
  · have still := (directories place (directory ▸ there)).1.symm.trans also
    cases still
  · exact (leaf ⟨directory, no_link⟩ _ also).2 target rfl

/-- Where names lead to a file to be written, they lead on a look. -/
theorem resolve_look_of_write {names : List String} {found : Found}
    (leads : tree.resolve enters .write links location names = .ok found) :
    tree.resolve enters .look links location names = .ok found := by
  have on {rest : List String} : ¬ (Purpose.look = .write ∧ rest = [""]) := by simp
  fun_induction FileTree.resolve tree enters .write links location names with
  | case1 links location =>
    rw [resolve]
    exact leads
  | case2 links location names ih => exact resolve_blank.trans (ih leads)
  | case4 links location names entered _ ih => exact (resolve_dot entered).trans (ih leads)
  | case5 links location names entered _ _ ih => exact (resolve_dots entered).trans (ih leads)
  | case10 links location name names nonempty entered not_dot not_dots _ short held ih =>
    exact (resolve_directory nonempty entered not_dot not_dots on short held).trans (ih leads)
  | case13 location name names nonempty entered not_dot not_dots _ short target held _ links ih =>
    exact (resolve_link nonempty entered not_dot not_dots on short held (by simp)).trans (ih leads)
  | case8 links location name names nonempty entered not_dot not_dots _ short held last =>
    rw [resolve_end nonempty entered not_dot not_dots on short last (by simp [held]), FileTree.found, held]
    exact leads
  | case11 _ _ _ _ _ _ _ _ _ _ _ _ last => simp at last
  | case14 links location name names nonempty entered not_dot not_dots _ short entry _ no_link held last =>
    have free : ∀ target, tree.get? (name :: location) ≠ some (.link target) := fun target also =>
      no_link target (Option.some.inj (held.symm.trans also))
    rw [resolve_end nonempty entered not_dot not_dots on short last free, FileTree.found, held]
    exact leads
  | _ => cases leads

/-- What names lead to is what lies there, or nothing does. -/
theorem eq_found_of_resolve {names : List String} {found : Found} (root : tree.IsTree)
    (start : tree.get? location = some .directory)
    (leads : tree.resolve enters purpose links location names = .ok found) :
    found = tree.found found.location := by
  cases found with
  | entry place entry =>
    rw [Found.location, FileTree.found, get?_of_resolve root start leads]
  | vacant place =>
    have vacant : tree.get? place = none := by
      clear start
      fun_induction FileTree.resolve tree enters purpose links location names with
      | case2 links location names ih => exact ih leads
      | case4 links location names _ _ ih => exact ih leads
      | case5 links location names _ _ _ ih => exact ih leads
      | case10 links location name names _ _ _ _ _ _ _ ih => exact ih leads
      | case13 location name names _ _ _ _ _ _ target _ _ links ih => exact ih leads
      | case8 links location name names _ _ _ _ _ _ held last =>
        cases leads
        exact held
      | _ => cases leads
    rw [Found.location, FileTree.found, vacant]

/-- A name by itself leads to what lies there, unless that is a link to be followed. -/
theorem resolve_name {name : String} (named : Path.IsName name)
    (free : purpose = .entry ∨ ∀ target, tree.get? (name :: location) ≠ some (.link target)) :
    tree.resolve enters purpose links location [name] =
      if !enters location then .error .denied
      else if longestName < name.utf8ByteSize then .error .nameTooLong
      else .ok (tree.found (name :: location)) := by
  have on : ¬ (purpose = .write ∧ ([] : List String) = [""]) := by simp
  rw [resolve, if_neg named.nonempty, if_neg named.not_dot, if_neg named.not_dots, if_neg on]
  unfold found
  split
  · rfl
  · split
    · rfl
    · cases held : tree.get? (name :: location) with
      | none => rfl
      | some entry =>
        cases entry with
        | directory => simp only [resolve]
        | link target =>
          obtain rfl : purpose = .entry := free.resolve_right fun none => none target held
          rfl
        | _ => rfl

/-- Where no link is on the way, names lead to the location that they spell. -/
theorem resolve_spelled {names : List String} {found : Found} (named : ∀ name ∈ names, Path.IsName name)
    (no_link : ∀ place target, place <:+ names.reverse ++ location → tree.get? place ≠ some (.link target))
    (leads : tree.resolve enters purpose links location names = .ok found) :
    found.location = names.reverse ++ location := by
  fun_induction FileTree.resolve tree enters purpose links location names with
  | case1 links location =>
    cases leads
    rfl
  | case2 links location names ih => exact absurd rfl (named "" List.mem_cons_self).nonempty
  | case4 links location names _ _ ih => exact absurd rfl (named "." List.mem_cons_self).not_dot
  | case5 links location names _ _ _ ih => exact absurd rfl (named ".." List.mem_cons_self).not_dots
  | case8 links location name names _ _ _ _ _ _ _ last =>
    cases leads
    rw [List.isEmpty_iff.mp last]
    rfl
  | case10 links location name names _ _ _ _ _ _ _ ih =>
    have whole : (name :: names).reverse ++ location = names.reverse ++ name :: location := by simp
    rw [whole] at no_link ⊢
    exact ih (fun other member => named other (List.mem_cons_of_mem name member)) no_link leads
  | case11 links location name names _ _ _ _ _ _ target held =>
    exact absurd held (no_link _ target ⟨names.reverse, by simp⟩)
  | case13 location name names _ _ _ _ _ _ target held =>
    exact absurd held (no_link _ target ⟨names.reverse, by simp⟩)
  | case14 links location name names _ _ _ _ _ _ entry _ _ _ last =>
    cases leads
    rw [List.isEmpty_iff.mp last]
    rfl
  | _ => cases leads

end FileTree

namespace Disk

open FileTree (Purpose Found IsTree)

variable {disk after : Disk} {purpose : Purpose} {path : Path} {name : String} {directory : Location}
  {found : Found}

/-- A path leads to a directory, however long it is. -/
def LeadsInto (disk : Disk) (path : Path) (directory : Location) : Prop :=
  disk.tree.resolve disk.enters .look FileTree.linkLimit (disk.start path) path.names =
    .ok (.entry directory .directory)

theorem LeadsInto.unique {other : Location} (leads : disk.LeadsInto path directory)
    (also : disk.LeadsInto path other) : directory = other := by
  have same := leads.symm.trans also
  simpa using same

theorem start_child (named : Path.IsName name) : disk.start (path.child name) = disk.start path := by
  rw [Path.child_name named]
  rfl

theorem resolve_of_find (success : disk.find purpose path = .ok found) :
    disk.tree.resolve disk.enters purpose FileTree.linkLimit (disk.start path) path.names =
      .ok found := by
  unfold find Disk.resolve at success
  split at success
  · cases success
  · cases reached : disk.tree.resolve disk.enters purpose FileTree.linkLimit (disk.start path)
      path.names with
    | error cause => simp [reached, Bind.bind, Except.bind] at success
    | ok place =>
      simp only [reached, Bind.bind, Except.bind] at success
      -- only the rights of a writer stand between the place and the result
      split at success
      · split at success
        · exact success
        · cases success
      · split at success
        · exact success
        · cases success
      · exact success

theorem find_eq (looks : purpose ≠ .write) :
    disk.find purpose path =
      if FileTree.pathLimit ≤ path.text.utf8ByteSize then .error .nameTooLong
      else disk.tree.resolve disk.enters purpose FileTree.linkLimit (disk.start path) path.names := by
  unfold find Disk.resolve
  congr 1
  cases reached : disk.tree.resolve disk.enters purpose FileTree.linkLimit (disk.start path)
    path.names with
  | error cause => rfl
  | ok place =>
    cases purpose with
    | write => exact absurd rfl looks
    | entry => rfl
    | look => rfl

/-- Where a path leads to a file to be written, it leads on a look. -/
theorem find_look_of_write (reached : disk.find .write path = .ok found) : disk.find .look path = .ok found := by
  have short : ¬ FileTree.pathLimit ≤ path.text.utf8ByteSize := by
    intro long
    rw [find, if_pos long] at reached
    cases reached
  rw [find_eq (by decide), if_neg short]
  exact FileTree.resolve_look_of_write (resolve_of_find reached)

theorem resolve_child (named : Path.IsName name) (leads : disk.LeadsInto path directory)
    (free : purpose = .entry ∨ ∀ target, disk.tree.get? (name :: directory) ≠ some (.link target)) :
    disk.tree.resolve disk.enters purpose FileTree.linkLimit (disk.start (path.child name))
        (path.child name).names =
      if !disk.enters directory then .error .denied
      else if FileTree.longestName < name.utf8ByteSize then .error .nameTooLong
      else .ok (disk.tree.found (name :: directory)) := by
  obtain ⟨left, same⟩ := FileTree.resolve_append leads
  have some_name : [name] ≠ [] ∧ [name] ≠ [""] := by simp [named.nonempty]
  rw [start_child named, Path.child_name named, same purpose [name] (.inr some_name),
    FileTree.resolve_name named free]

/-- Where a path with one more name leads, unless that is the name of a link to be followed. -/
theorem find_child (named : Path.IsName name) (leads : disk.LeadsInto path directory)
    (looks : purpose ≠ .write)
    (free : purpose = .entry ∨ ∀ target, disk.tree.get? (name :: directory) ≠ some (.link target)) :
    disk.find purpose (path.child name) =
      if FileTree.pathLimit ≤ (path.child name).text.utf8ByteSize then .error .nameTooLong
      else if !disk.enters directory then .error .denied
      else if FileTree.longestName < name.utf8ByteSize then .error .nameTooLong
      else .ok (disk.tree.found (name :: directory)) := by
  rw [find_eq looks, resolve_child named leads free]

/-- If a path with one more name leads anywhere, it is to that name in a directory. -/
theorem found_of_find_child (named : Path.IsName name) (leads : disk.LeadsInto path directory)
    (free : purpose = .entry ∨ ∀ target, disk.tree.get? (name :: directory) ≠ some (.link target))
    (success : disk.find purpose (path.child name) = .ok found) :
    found = disk.tree.found (name :: directory) := by
  have reached := resolve_of_find success
  rw [resolve_child named leads free] at reached
  split at reached
  · cases reached
  · split at reached
    · cases reached
    · exact (Except.ok.inj reached).symm

theorem leadsInto_of_find_child (named : Path.IsName name)
    (success : disk.find purpose (path.child name) = .ok found) :
    ∃ directory, disk.LeadsInto path directory := by
  have reached := resolve_of_find success
  rw [start_child named, Path.child_name named] at reached
  exact FileTree.resolve_of_append (by simp) reached

/-- What is found at the end of a path with one more name is of that name in a directory. -/
theorem exists_of_find_child (named : Path.IsName name)
    (success : disk.find .entry (path.child name) = .ok found) :
    ∃ directory, disk.LeadsInto path directory ∧ disk.enters directory = true ∧
      ¬ FileTree.longestName < name.utf8ByteSize ∧ found = disk.tree.found (name :: directory) := by
  obtain ⟨directory, leads⟩ := leadsInto_of_find_child named success
  rw [find_child named leads (by decide) (.inl rfl)] at success
  split at success
  · cases success
  · split at success
    · cases success
    · next entered =>
      split at success
      · cases success
      · next short =>
        exact ⟨directory, leads, by simpa using entered, short, (Except.ok.inj success).symm⟩

/-- Where a path leads to a directory, so does the path with the name of a directory in it. -/
theorem LeadsInto.child (leads : disk.LeadsInto path directory) (named : Path.IsName name)
    (entered : disk.enters directory = true) (short : ¬ FileTree.longestName < name.utf8ByteSize)
    (held : disk.tree.get? (name :: directory) = some .directory) :
    disk.LeadsInto (path.child name) (name :: directory) := by
  unfold LeadsInto
  rw [resolve_child named leads (.inr (by simp [held])), entered, if_neg (by simp), if_neg short,
    FileTree.found, held]

theorem LeadsInto.of_find_entry (named : Path.IsName name)
    (reached : disk.find .entry (path.child name) = .ok (.entry directory .directory)) :
    disk.LeadsInto (path.child name) directory := by
  obtain ⟨parent, leads, entered, short, found⟩ := exists_of_find_child named reached
  unfold FileTree.found at found
  split at found
  · cases found
  · next held =>
    cases found
    exact leads.child named entered short held

/-- A directory that a path with one more name leads to is of that name, unless a link is. -/
theorem LeadsInto.of_child {place : Location} (leads : disk.LeadsInto (path.child name) place)
    (named : Path.IsName name) :
    ∃ directory, disk.LeadsInto path directory ∧
      ((∀ target, disk.tree.get? (name :: directory) ≠ some (.link target)) →
        place = name :: directory ∧ disk.tree.get? (name :: directory) = some .directory) := by
  unfold LeadsInto at leads
  have above := leads
  rw [start_child named, Path.child_name named] at above
  obtain ⟨directory, into⟩ := FileTree.resolve_of_append (by simp) above
  refine ⟨directory, into, fun no_link => ?_⟩
  rw [resolve_child named into (.inr no_link)] at leads
  split at leads
  · cases leads
  · split at leads
    · cases leads
    · unfold FileTree.found at leads
      split at leads
      · cases leads
      · next entry held =>
        cases leads
        exact ⟨rfl, held⟩

theorem get?_of_find {place : Location} {entry : Entry} (root : disk.tree.IsTree)
    (absolute : path.isAbsolute = true) (reached : disk.find purpose path = .ok (.entry place entry)) :
    disk.tree.get? place = some entry := by
  have start : disk.start path = [] := if_pos absolute
  exact FileTree.get?_of_resolve root (by rw [start]; rfl) (resolve_of_find reached)

theorem LeadsInto.isDirectory_of_start (leads : disk.LeadsInto path directory) (root : disk.tree.IsTree)
    (start : disk.tree.get? (disk.start path) = some .directory) :
    disk.tree.get? directory = some .directory :=
  FileTree.get?_of_resolve root start leads

theorem LeadsInto.isDirectory (leads : disk.LeadsInto path directory) (root : disk.tree.IsTree)
    (absolute : path.isAbsolute = true) : disk.tree.get? directory = some .directory := by
  have start : disk.start path = [] := if_pos absolute
  exact leads.isDirectory_of_start root (by rw [start]; rfl)

/-! ## The place of the last name -/

/-- A location is of the last name of a path, in the directory that the path without it leads to. -/
def Places (disk : Disk) (path : Path) (location : Location) : Prop :=
  ∃ directory, disk.LeadsInto path.parent directory ∧ location = path.name :: directory

/-- The last name of a path is not that of a link. -/
def EndsInNoLink (disk : Disk) (path : Path) : Prop :=
  ∀ location, disk.Places path location → ∀ target, disk.tree.get? location ≠ some (.link target)

theorem Places.unique {location other : Location} (places : disk.Places path location)
    (also : disk.Places path other) : location = other := by
  obtain ⟨directory, leads, rfl⟩ := places
  obtain ⟨directory, again, rfl⟩ := also
  rw [leads.unique again]

theorem places_child {location : Location} (named : Path.IsName name) :
    disk.Places (path.child name) location ↔
      ∃ directory, disk.LeadsInto path directory ∧ location = name :: directory := by
  rw [Places, Path.parent_child named, Path.child_name_eq named]

theorem find_of_no_names (plain : path.IsPlain) (none : path.names = []) {found : Found}
    (leads : disk.find purpose path = .ok found) : found = .entry [] .directory := by
  have reached := resolve_of_find leads
  rw [none, Disk.start, if_pos plain.absolute, FileTree.resolve] at reached
  exact (Except.ok.inj reached).symm

/-- Where a path ends in no link, it leads to the place of its last name, or it has no names. -/
theorem places_of_find (plain : path.IsPlain) (some_names : path.names ≠ [])
    (free : purpose = .entry ∨ disk.EndsInNoLink path)
    (reached : disk.find purpose path = .ok found) :
    ∃ location, disk.Places path location ∧ found = disk.tree.found location := by
  obtain ⟨parent, name, rfl, -, named⟩ := plain.cases.resolve_left some_names
  obtain ⟨directory, leads⟩ := leadsInto_of_find_child named reached
  have places : disk.Places (parent.child name) (name :: directory) :=
    (places_child named).mpr ⟨directory, leads, rfl⟩
  refine ⟨name :: directory, places, found_of_find_child named leads (free.imp_right ?_) reached⟩
  exact fun no_link => no_link _ places

/-- No link is on the way to the place that the names of a path spell. -/
def LeadsStraight (disk : Disk) (path : Path) : Prop :=
  ∀ location target, location <:+ path.names.reverse → disk.tree.get? location ≠ some (.link target)

theorem LeadsInto.eq_spelled (leads : disk.LeadsInto path directory) (straight : disk.LeadsStraight path)
    (plain : path.IsPlain) : directory = path.names.reverse := by
  have start : disk.start path = [] := if_pos plain.absolute
  rw [LeadsInto, start] at leads
  have spelled := FileTree.resolve_spelled plain.named
    (fun place target => by rw [List.append_nil]; exact straight place target) leads
  rwa [List.append_nil] at spelled

theorem LeadsStraight.parent (straight : disk.LeadsStraight path) : disk.LeadsStraight path.parent :=
  fun location target above =>
    straight location target (above.trans (List.reverse_suffix.mpr (List.dropLast_prefix path.names)))

theorem LeadsStraight.endsInNoLink (straight : disk.LeadsStraight path) (root : disk.tree.IsTree)
    (plain : path.IsPlain) : disk.EndsInNoLink path := by
  rintro location ⟨directory, leads, rfl⟩ target link
  obtain rfl := leads.eq_spelled straight.parent plain.parent
  have there : disk.tree.get? (path.name :: path.parent.names.reverse) ≠ none := by simp [link]
  have is_name := (root path.name _ there).2.1
  have whole : path.name :: path.parent.names.reverse = path.names.reverse := by
    rcases List.eq_nil_or_concat' path.names with none | ⟨front, last, split⟩
    · exact absurd (by rw [Path.name, none]; rfl) is_name.nonempty
    · simp [Path.parent, Path.name, split]
  exact straight _ target (whole ▸ List.suffix_rfl) link

/-! ## Routes that stay -/

/-- At a location lies what was there, with the same mode. -/
def SameAt (before after : Disk) (location : Location) : Prop :=
  after.tree.get? location = before.tree.get? location ∧
    after.modes.lookup location = before.modes.lookup location

/-- The directories and links of a disk are there still. -/
def KeepsRoutes (before after : Disk) : Prop :=
  ∀ location, before.tree.get? location = some .directory ∨
    (∃ target, before.tree.get? location = some (.link target)) → SameAt before after location

theorem SameAt.enters {before after : Disk} {location : Location}
    (same : SameAt before after location) : after.enters location = before.enters location := by
  rw [Disk.enters, Disk.enters, same.2]

theorem SameAt.grants {before after : Disk} {location : Location} (right : Right)
    (same : SameAt before after location) :
    after.grants right location = before.grants right location := by
  rw [Disk.grants, Disk.grants, modeAt, modeAt, same.1, same.2]

section Kept
variable {before after : Disk}

/-- A path starts in a directory, and in the same one after a change. -/
structure StartsAlike (before after : Disk) (path : Path) : Prop where
  start : before.tree.get? (before.start path) = some .directory
  same : after.start path = before.start path

theorem StartsAlike.of_absolute (absolute : path.isAbsolute = true) : StartsAlike before after path := by
  have start (disk : Disk) : disk.start path = [] := if_pos absolute
  exact ⟨by rw [start]; rfl, by rw [start, start]⟩

theorem StartsAlike.of_here (start : before.tree.get? (before.start path) = some .directory)
    (here : after.here = before.here) : StartsAlike before after path :=
  ⟨start, by rw [Disk.start, Disk.start, here]⟩

theorem StartsAlike.of_anchor {other : Path} (alike : StartsAlike before after path)
    (same : other.anchor = path.anchor) : StartsAlike before after other := by
  have start (disk : Disk) : disk.start other = disk.start path := by
    rw [Disk.start, Disk.start, Path.isAbsolute, Path.isAbsolute, same]
  exact ⟨by rw [start]; exact alike.start, by rw [start, start]; exact alike.same⟩

theorem StartsAlike.start_after (alike : StartsAlike before after path) (kept : KeepsRoutes before after) :
    after.tree.get? (after.start path) = some .directory := by
  rw [alike.same]
  exact (kept _ (.inl alike.start)).1.trans alike.start

private theorem resolve_kept {place : Location} {entry : Entry} (root : before.tree.IsTree)
    (alike : StartsAlike before after path) (kept : KeepsRoutes before after)
    (leaf : FileTree.IsLeaf entry → ∀ held, after.tree.get? place = some held → FileTree.IsLeaf held)
    (leads : before.tree.resolve before.enters purpose FileTree.linkLimit (before.start path)
      path.names = .ok (.entry place entry)) :
    after.tree.resolve after.enters purpose FileTree.linkLimit (after.start path) path.names =
      .ok (after.tree.found place) := by
  rw [alike.same]
  refine FileTree.resolve_of_kept root alike.start ?_ ?_ leaf leads
  · intro location there
    have same := kept location (.inl there)
    exact ⟨same.1.trans there, same.enters⟩
  · intro location target there
    exact (kept location (.inr ⟨target, there⟩)).1.trans there

theorem LeadsInto.kept_of_alike (leads : before.LeadsInto path directory) (root : before.tree.IsTree)
    (alike : StartsAlike before after path) (kept : KeepsRoutes before after) :
    after.LeadsInto path directory := by
  have there := leads.isDirectory_of_start root alike.start
  have reached := resolve_kept root alike kept (fun leaf => absurd rfl leaf.1) leads
  rwa [FileTree.found, (kept directory (.inl there)).1.trans there] at reached

theorem LeadsInto.kept (leads : before.LeadsInto path directory) (root : before.tree.IsTree)
    (absolute : path.isAbsolute = true) (kept : KeepsRoutes before after) :
    after.LeadsInto path directory :=
  leads.kept_of_alike root (.of_absolute absolute) kept

theorem Places.kept {location : Location} (places : before.Places path location)
    (root : before.tree.IsTree) (plain : path.IsPlain) (kept : KeepsRoutes before after) :
    after.Places path location := by
  obtain ⟨directory, leads, rfl⟩ := places
  exact ⟨directory, leads.kept root plain.parent.absolute kept, rfl⟩

/-- What a path leads to, where the directories and links are there still. -/
theorem find_kept {place : Location} {entry : Entry} (root : before.tree.IsTree)
    (absolute : path.isAbsolute = true) (kept : KeepsRoutes before after) (looks : purpose ≠ .write)
    (leaf : FileTree.IsLeaf entry → ∀ held, after.tree.get? place = some held → FileTree.IsLeaf held)
    (leads : before.find purpose path = .ok (.entry place entry)) :
    after.find purpose path = .ok (after.tree.found place) := by
  have reached := resolve_kept root (.of_absolute absolute) kept leaf (resolve_of_find leads)
  rw [find_eq looks] at leads ⊢
  split at leads
  · cases leads
  · next short => rw [if_neg short, reached]

/-- A path that can be followed leads to the same place where the directories and links are there still, and no link
has come to its end. -/
theorem find_look_kept (root : before.tree.IsTree) (alike : StartsAlike before after path)
    (kept : KeepsRoutes before after)
    (no_link : (∀ target, before.tree.get? found.location ≠ some (.link target)) →
      ∀ target, after.tree.get? found.location ≠ some (.link target))
    (reached : before.find .look path = .ok found) :
    after.find .look path = .ok (after.tree.found found.location) := by
  rw [find_eq (by decide)] at reached ⊢
  split at reached
  · cases reached
  next short =>
  rw [if_neg short, alike.same]
  refine FileTree.resolve_of_alike root alike.start ?_ ?_ no_link reached
  · intro location there
    have same := kept location (.inl there)
    exact ⟨same.1.trans there, same.enters⟩
  · intro location target there
    exact (kept location (.inr ⟨target, there⟩)).1.trans there

/-- What lies where a file was to be written is found there afterwards, where the directories and links are there
still. -/
theorem find_of_written {entry : Entry} (root : before.tree.IsTree) (alike : StartsAlike before after path)
    (kept : KeepsRoutes before after) (held : after.tree.get? found.location = some entry)
    (no_link : ∀ target, entry ≠ .link target) (reached : before.find .write path = .ok found) :
    after.find .look path = .ok (.entry found.location entry) := by
  have free (target : String) : after.tree.get? found.location ≠ some (.link target) := fun link =>
    no_link target (Option.some.inj (held.symm.trans link))
  have there := find_look_kept root alike kept (fun _ => free) (find_look_of_write reached)
  rwa [FileTree.found, held] at there

end Kept
end Disk
end JavaStubs

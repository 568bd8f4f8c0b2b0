import JavaStubs.Files.Path
import JavaStubs.Files.Fault
import JavaStubs.Archive.Bytes
import JavaStubs.Archive.Reader

/-!
Trees of files. A tree keeps what lies at each location; a location is a list of names, the
innermost first, and the root is the empty one. `resolve` follows a path name through the tree, in
which symbolic links lead elsewhere, to the entry that it names or to the vacant place where that
entry could be made.
-/
namespace JavaStubs

/-- What a file holds. An archive is kept by its entries, and so is one whose directory is yet to be
written. -/
inductive Content where
  | raw (bytes : ByteArray)
  | records (entries : List ArchiveEntry)
  | archive (entries : List ArchiveEntry)

namespace Content

/-- Contents are equal if they are kept in one way and agree in what is kept. -/
instance : DecidableEq Content
  | .raw a, .raw b => decidable_of_iff (a.data = b.data) (by simp [ByteArray.ext_iff])
  | .records a, .records b => decidable_of_iff (a = b) (by simp)
  | .archive a, .archive b => decidable_of_iff (a = b) (by simp)
  | .raw _, .records _ => isFalse (by simp)
  | .raw _, .archive _ => isFalse (by simp)
  | .records _, .raw _ => isFalse (by simp)
  | .records _, .archive _ => isFalse (by simp)
  | .archive _, .raw _ => isFalse (by simp)
  | .archive _, .records _ => isFalse (by simp)

/-- The bytes of a file. -/
def toBytes : Content → ByteArray
  | .raw bytes => bytes
  | .records entries => Archive.recordBytes entries
  | .archive entries => Archive.toBytes entries

def ofText (text : String) : Content := .raw text.toUTF8

/-- The entries of an archive. -/
def entries : Content → Except ArchiveFault (List ArchiveEntry)
  | .archive entries => .ok entries
  | content => Archive.read content.toBytes.toList

/-- The names of the entries, if it seems to be an archive. -/
def entryNames : Content → Except ArchiveFault (List String)
  | .archive entries => .ok (entries.map ArchiveEntry.name)
  | content => do
    let bytes := content.toBytes.toList
    match ← Archive.endRecord? bytes with
    | some _ => Archive.names bytes
    | none => return []

end Content

/-- What lies at a location. -/
inductive Entry where
  | directory
  | file (content : Content)
  | link (target : String)
  /-- A program of the host, whose bytes are not kept. -/
  | program
  /-- The device that takes everything and gives nothing. -/
  | sink
  deriving DecidableEq

namespace Entry

/-- Whether an entry is a directory. -/
def isDirectory : Entry → Bool
  | .directory => true
  | _ => false

/-- Whether an entry is a regular file. -/
def isFile : Entry → Bool
  | .file _ => true
  | .program => true
  | _ => false

/-- Whether an entry is a link. -/
def isLink : Entry → Bool
  | .link _ => true
  | _ => false

end Entry

/-- The names on the way to an entry, the innermost first. -/
abbrev Location := List String

namespace Location

/-- The absolute path of a location. -/
def path (location : Location) : Path := ⟨.root, location.reverse⟩

/-- Whether a location is a directory's own or lies below it. -/
def isWithin (directory location : Location) : Bool := directory.isSuffixOf location

end Location

/-- The entries of a file system by their locations. -/
structure FileTree where
  entries : List (Location × Entry)
  deriving DecidableEq

namespace FileTree

/-- A tree in which there is only the root. -/
def empty : FileTree := ⟨[]⟩

/-- What lies at a location. The root is always there. -/
def get? (tree : FileTree) : Location → Option Entry
  | [] => some .directory
  | name :: directory => tree.entries.lookup (name :: directory)

/-- The tree with an entry at a location. -/
def put (tree : FileTree) (location : Location) (entry : Entry) : FileTree :=
  ⟨(location, entry) :: tree.entries.filter (·.1 != location)⟩

/-- The tree without what lies at a location. -/
def erase (tree : FileTree) (location : Location) : FileTree :=
  ⟨tree.entries.filter (·.1 != location)⟩

/-- The names in a directory. -/
def children (tree : FileTree) (directory : Location) : List String :=
  tree.entries.filterMap fun (location, _) =>
    match location with
    | name :: parent => if parent = directory then some name else none
    | [] => none

/-- What lies below a directory, with the locations. -/
def below (tree : FileTree) (directory : Location) : List (Location × Entry) :=
  tree.entries.filter fun (location, _) =>
    directory.isSuffixOf location && location != directory

/-- Looking up among pairs of which those with one key were left out. -/
theorem lookup_filter_ne {α : Type} (location other : Location) (entries : List (Location × α)) :
    (entries.filter (·.1 != location)).lookup other =
      if other = location then none else entries.lookup other := by
  induction entries with
  | nil => simp
  | cons entry rest ih =>
    obtain ⟨key, value⟩ := entry
    by_cases hk : key = location
    · subst hk
      by_cases h : other = key
      · subst h; simpa using ih
      · have : (other == key) = false := by simp [h]
        simp [List.lookup_cons, this, ih, h]
    · by_cases h : other = key
      · subst h; simp [hk]
      · have : (other == key) = false := by simp [h]
        simp [hk, List.lookup_cons, this, ih]

/-- What lies where after an entry was put at a location other than the root. -/
theorem get?_put (tree : FileTree) {location : Location} (entry : Entry) (other : Location)
    (h : location ≠ []) :
    (tree.put location entry).get? other = if other = location then some entry else tree.get? other := by
  cases other with
  | nil => simp [get?, h.symm]
  | cons name directory =>
    by_cases same : name :: directory = location
    · simp [get?, put, same]
    · have : (name :: directory == location) = false := by simpa using same
      simp only [get?, put, List.lookup_cons, this, same, if_false]
      rw [lookup_filter_ne, if_neg same]

/-- What lies where after a location other than the root was cleared. -/
theorem get?_erase (tree : FileTree) {location : Location} (other : Location) (h : location ≠ []) :
    (tree.erase location).get? other = if other = location then none else tree.get? other := by
  cases other with
  | nil => simp [get?, h.symm]
  | cons name directory => simp only [get?, erase, lookup_filter_ne]

/-! ## Following path names -/

/-- Where a path name leads: to an entry, or to a vacant place in a directory. -/
inductive Found where
  | entry (location : Location) (entry : Entry)
  | vacant (location : Location)
  deriving DecidableEq

/-- The location that was found, vacant or not. -/
def Found.location : Found → Location
  | .entry location _ => location
  | .vacant location => location

/-- The most bytes that a file name may have. -/
def longestName : Nat := 255

/-- The number of bytes that a path name must stay below. -/
def pathLimit : Nat := 4096

/-- The number of links that may be followed on one way. -/
def linkLimit : Nat := 40

/-- What a path name is followed for: for the entry at its end, which may be a link, for what lies
behind such a link, or for a file to be written there. -/
inductive Purpose where
  | entry
  | look
  | write
  deriving DecidableEq, Repr

/-- The names that the target of a link leads through. What it ends in counts: a target that ends
in a separator, or in a single dot, can only be a directory. -/
def linkNames (target : String) : List String :=
  let last := ((Text.fieldsOf '/' target).getLast?).getD ""
  Path.namesOf target ++ if last == "" || last == "." then [last] else []

/-- Where a link in a directory leads from. -/
def linkStart (directory : Location) (target : String) : Location :=
  if target.startsWith "/" then [] else directory

/-- More names than any link among entries leads through. -/
def spanOf : List (Location × Entry) → Nat
  | [] => 1
  | (_, .link target) :: rest => (linkNames target).length + spanOf rest
  | _ :: rest => spanOf rest

theorem length_linkNames_lt {tree : FileTree} {location : Location} {target : String}
    (held : tree.get? location = some (.link target)) :
    (linkNames target).length < spanOf tree.entries := by
  have found : tree.entries.lookup location = some (.link target) := by
    cases location with
    | nil => cases held
    | cons name directory => exact held
  have positive (entries : List (Location × Entry)) : 0 < spanOf entries := by
    fun_induction spanOf entries <;> omega
  generalize tree.entries = entries at found
  fun_induction spanOf entries with
  | case1 => cases found
  | case2 place other rest ih =>
    rw [List.lookup_cons] at found
    split at found
    · cases found
      have := positive rest
      omega
    · have := ih found
      omega
  | case3 entry rest no_link ih =>
    obtain ⟨place, entry⟩ := entry
    rw [List.lookup_cons] at found
    split at found
    · cases found
      exact absurd rfl (no_link place target)
    · exact ih found

/-- Where the names still `pending` lead from a location that is a directory. At most `links`
further links are followed, and `enters` tells in which directories names may be looked up. A single
dot, and nothing at all, stay at the location. -/
def resolve (tree : FileTree) (enters : Location → Bool) (purpose : Purpose) (links : Nat)
    (location : Location) (pending : List String) : Except OsCause Found :=
  match pending with
  | [] => .ok (.entry location .directory)
  | name :: rest =>
    if name = "" then resolve tree enters purpose links location rest
    else if !enters location then .error .denied
    else if name = "." then resolve tree enters purpose links location rest
    else if name = ".." then resolve tree enters purpose links location.tail rest
    else if purpose = .write ∧ rest = [""] then .error .isDirectory
    else if longestName < name.utf8ByteSize then .error .nameTooLong
    else match _ : tree.get? (name :: location) with
      | none => if rest.isEmpty then .ok (.vacant (name :: location)) else .error .notFound
      | some .directory => resolve tree enters purpose links (name :: location) rest
      | some (.link target) =>
        if rest.isEmpty && purpose = .entry then .ok (.entry (name :: location) (.link target))
        else match links with
          | 0 => .error .tooManyLinks
          | links + 1 =>
            resolve tree enters purpose links (linkStart location target) (linkNames target ++ rest)
      | some entry =>
        if rest.isEmpty then .ok (.entry (name :: location) entry) else .error .notDirectory
termination_by links * spanOf tree.entries + pending.length
decreasing_by
  all_goals simp only [List.length_cons, List.length_append]
  · omega
  · omega
  · omega
  · omega
  · have short := length_linkNames_lt ‹_›
    rw [Nat.succ_mul]
    omega

section Rules
variable {tree : FileTree} {enters : Location → Bool} {purpose : Purpose} {links : Nat} {location : Location}
  {rest : List String}

/-- Nothing at all stays at the location. -/
theorem resolve_blank : tree.resolve enters purpose links location ("" :: rest) =
    tree.resolve enters purpose links location rest := by
  rw [resolve, if_pos rfl]

/-- A single dot stays at the location, if names may be looked up there. -/
theorem resolve_dot (entered : ¬ (!enters location) = true) :
    tree.resolve enters purpose links location ("." :: rest) =
      tree.resolve enters purpose links location rest := by
  rw [resolve, if_neg (by decide), if_neg entered, if_pos rfl]

/-- Two dots lead one up, if names may be looked up at the location. -/
theorem resolve_dots (entered : ¬ (!enters location) = true) :
    tree.resolve enters purpose links location (".." :: rest) =
      tree.resolve enters purpose links location.tail rest := by
  rw [resolve, if_neg (by decide), if_neg entered, if_neg (by decide), if_pos rfl]

end Rules

end FileTree
end JavaStubs

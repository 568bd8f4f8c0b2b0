import JavaStubs.Descriptor.Shipped
import JavaStubs.Proofs.Files.Reading

/-!
Which files are read for schemas. A request is refused exactly if the path that it leads to is neither in the
directory of schemas nor in a neighbour of it whose name begins with the name of the directory. In such a
neighbour, a file is read as if it were a schema. No other files are read, whatever is asked for one after another.
-/
namespace JavaStubs.Shipped

open Disk (AgreesOn)
open JavaStubs.Path (IsUnder IsBeside IsResolved)

section Requests

variable {root place : Path} {disk other : Disk} {kept : Fields} {path : String}

/-! ## Where requests lead -/

/-- Wherever a request leads to is a path from the root. -/
theorem isResolved_resolved (settled : root.IsResolved) (path : String) :
    (resolved root path).IsResolved :=
  ⟨rfl, (Path.isPlain_absolute settled.isPlain path).named⟩

/-- Where there are no links, the path from the directory leads to where the request does. -/
theorem path_of_find_child (settled : root.IsResolved) (linkless : disk.tree.IsLinkless)
    {found : FileTree.Found} (reached : disk.find .look (root.child path) = .ok found) :
    found.location.path = resolved root path := by
  have absolute : (root.child path).isAbsolute = true :=
    Path.isAbsolute_absoluteFrom settled.isPlain.absolute (.ofText path)
  exact Disk.path_of_find linkless absolute (settled.isPlain.isClean.child path) reached

/-- Where there are no links, what is found by a path from the root lies at that path. -/
theorem path_of_find_resolved (resolved : place.IsResolved) (linkless : disk.tree.IsLinkless)
    {found : FileTree.Found} (reached : disk.find .look place = .ok found) : found.location.path = place := by
  have plain := resolved.isPlain
  rw [Disk.path_of_find linkless plain.absolute plain.isClean reached, plain.normal_eq, ← resolved.anchored]

/-- A path is in the directory, or in a neighbour whose name begins with that of the directory. -/
def IsNear (root path : Path) : Prop := IsUnder root path ∨ IsBeside root path

/-! ## One request -/

theorem readSchema_ne_outsideSchemas (disk : Disk) (place : Path) :
    readSchema disk place ≠ .error .outsideSchemas := by
  unfold readSchema
  cases ((Disk.readBytes place).run disk).1 with
  | error fault => nofun
  | ok bytes =>
    rw [mapError_ok, ok_bind rfl]
    cases Utf8.readText bytes with
    | error fault => nofun
    | ok text =>
      rw [mapError_ok, ok_bind rfl]
      cases Json.read text.toList with
      | error fault => nofun
      | ok schema => nofun

theorem loadFrom_of_hasNul (nul : Path.hasNul path = true) :
    loadFrom root disk kept path = .error (.file .nulInName) := by
  rw [loadFrom, if_pos nul]
  rfl

/-- A request is refused exactly if it leads neither below the directory nor beside it. -/
theorem loadFrom_refused_iff (settled : root.IsResolved) (some_names : root.names ≠ [])
    (free : Path.hasNul path = false) :
    loadFrom root disk kept path = .error .outsideSchemas ↔ ¬ IsNear root (resolved root path) := by
  rw [IsNear, ← Path.text_startsWith_iff settled some_names (isResolved_resolved settled path), loadFrom,
    if_neg (by simp [free])]
  dsimp only
  by_cases starts : (resolved root path).text.startsWith root.text = true
  · rw [if_neg (by simp [starts])]
    refine ⟨fun refused => ?_, fun outside => absurd starts outside⟩
    cases held : kept.get? (resolved root path).text with
    | some schema =>
      rw [held] at refused
      cases refused
    | none =>
      rw [held] at refused
      cases read : readSchema disk (resolved root path) with
      | error fault =>
        rw [read] at refused
        obtain rfl := Except.error.inj refused
        exact absurd read (readSchema_ne_outsideSchemas disk _)
      | ok schema =>
        rw [read] at refused
        cases refused
  · rw [if_pos (by simp [starts])]
    exact ⟨fun _ => starts, fun _ => rfl⟩

/-- What files hold elsewhere than where a request leads makes no difference to it. -/
theorem loadFrom_of_agreesOn (settled : root.IsResolved) (linkless : disk.tree.IsLinkless)
    (agrees : AgreesOn (·.path = resolved root path) disk other) :
    loadFrom root other kept path = loadFrom root disk kept path := by
  have place := isResolved_resolved settled path
  have read : readSchema other (resolved root path) = readSchema disk (resolved root path) := by
    rw [readSchema, readSchema, agrees.readBytes_eq place.isPlain.absolute fun found reached =>
      path_of_find_resolved place linkless reached]
  rw [loadFrom, loadFrom]
  dsimp only
  rw [read]

/-! ## Requests one after another -/

/-- What comes of requests, each with the disk as it is then. -/
def loadEach (root : Path) (kept : Fields) : List (Disk × String) → List (Except Fault Value)
  | [] => []
  | (disk, path) :: rest =>
    match loadFrom root disk kept path with
    | .ok (schema, kept) => .ok schema :: loadEach root kept rest
    | .error fault => .error fault :: loadEach root kept rest

/-- What files hold that are not near the directory makes no difference to any request. -/
theorem loadFrom_of_agreesOn_near (settled : root.IsResolved) (some_names : root.names ≠ [])
    (linkless : disk.tree.IsLinkless) (agrees : AgreesOn (IsNear root ·.path) disk other) :
    loadFrom root other kept path = loadFrom root disk kept path := by
  cases nul : Path.hasNul path with
  | true => rw [loadFrom_of_hasNul nul, loadFrom_of_hasNul nul]
  | false =>
    by_cases near : IsNear root (resolved root path)
    · exact loadFrom_of_agreesOn settled linkless (agrees.mono fun location there => there.symm ▸ near)
    · rw [(loadFrom_refused_iff settled some_names nul).mpr near,
        (loadFrom_refused_iff settled some_names nul).mpr near]

/-- Nor does it when requests come one after another, and what was loaded is kept. -/
theorem loadEach_of_agreesOn (settled : root.IsResolved) (some_names : root.names ≠ [])
    (requests : List (Disk × Disk × String)) (kept : Fields)
    (agree : ∀ disk other path, (disk, other, path) ∈ requests →
      disk.tree.IsLinkless ∧ AgreesOn (IsNear root ·.path) disk other) :
    loadEach root kept (requests.map fun (_, other, path) => (other, path)) =
      loadEach root kept (requests.map fun (disk, _, path) => (disk, path)) := by
  induction requests generalizing kept with
  | nil => rfl
  | cons request rest ih =>
    obtain ⟨disk, other, path⟩ := request
    have onward (kept : Fields) := ih kept fun disk other path member =>
      agree disk other path (List.mem_cons_of_mem _ member)
    obtain ⟨linkless, agrees⟩ := agree disk other path List.mem_cons_self
    rw [List.map_cons, List.map_cons, loadEach, loadEach,
      loadFrom_of_agreesOn_near settled some_names linkless agrees]
    split
    · next schema kept _ => rw [onward kept]
    · rw [onward kept]

end Requests

/-! ## What is read -/

/-- A path with a NUL is refused. Any other one is refused exactly if it leads neither below the directory nor
beside it, so that one is let through that does not stay below the directory exactly if it leads beside it. Where
there are no links, nothing is read but what lies where a request leads, and over all requests nothing but what is
near the directory. -/
theorem load_confined {root : Path} (settled : root.IsResolved) (some_names : root.names ≠ []) :
    (∀ (disk : Disk) (kept : Fields) (path : String), Path.hasNul path = true →
      loadFrom root disk kept path = .error (.file .nulInName)) ∧
    (∀ (disk : Disk) (kept : Fields) (path : String), Path.hasNul path = false →
      (loadFrom root disk kept path = .error .outsideSchemas ↔ ¬ IsNear root (resolved root path)) ∧
      (IsUnder root (resolved root path) ∨ loadFrom root disk kept path = .error .outsideSchemas ↔
        ¬ IsBeside root (resolved root path))) ∧
    (∀ (disk : Disk) (path : String) (found : FileTree.Found), disk.tree.IsLinkless →
      disk.find .look (root.child path) = .ok found → found.location.path = resolved root path) ∧
    (∀ (disk other : Disk) (kept : Fields) (path : String), disk.tree.IsLinkless →
      AgreesOn (·.path = resolved root path) disk other →
        loadFrom root other kept path = loadFrom root disk kept path) ∧
    ∀ (requests : List (Disk × Disk × String)) (kept : Fields),
      (∀ disk other path, (disk, other, path) ∈ requests →
        disk.tree.IsLinkless ∧ AgreesOn (IsNear root ·.path) disk other) →
      loadEach root kept (requests.map fun (_, other, path) => (other, path)) =
        loadEach root kept (requests.map fun (disk, _, path) => (disk, path)) := by
  refine ⟨fun disk kept path nul => loadFrom_of_hasNul nul, fun disk kept path free => ?_,
    fun disk path found linkless reached => path_of_find_child settled linkless reached,
    fun disk other kept path linkless agrees => loadFrom_of_agreesOn settled linkless agrees,
    loadEach_of_agreesOn settled some_names⟩
  have refused : loadFrom root disk kept path = .error .outsideSchemas ↔ _ :=
    loadFrom_refused_iff settled some_names free
  refine ⟨refused, ?_⟩
  rw [refused, IsNear, not_or]
  constructor
  · rintro (under | ⟨-, away⟩) beside
    · exact beside.not_isUnder some_names under
    · exact away beside
  · intro away
    by_cases under : IsUnder root (resolved root path)
    · exact .inl under
    · exact .inr ⟨under, away⟩

/-- A disk with the directory of schemas, and notes with a text beside it. -/
def site (notes : String) : Disk :=
  let above : Location := ["contracts", "src", "java-stubs"]
  ⟨⟨[("notes" :: above, .file (.ofText notes)), ("schemas" :: above, .directory), (above, .directory),
    (above.drop 1, .directory), (above.drop 2, .directory)]⟩, [], [], [], 0o022⟩

theorem load_confined_notes : directory.IsResolved ∧ directory.names ≠ [] ∧
    loadFrom directory disk [] "interface.schema.json\x00" = .error (.file .nulInName) ∧
    loadFrom directory disk [] "../notes" = .error .outsideSchemas ∧
    Location.path ["schemas", "contracts", "src", "java-stubs"] = resolved directory "../schemas//./" ∧
    loadFrom directory (site "b") [] "." = loadFrom directory (site "a") [] "." ∧
    loadEach directory [] [(site "b", "../notes"), (site "b", "x.json")] =
      loadEach directory [] [(site "a", "../notes"), (site "a", "x.json")] := by
  have settled : directory.IsResolved := ⟨by decide +kernel, by decide +kernel⟩
  have some_names : directory.names ≠ [] := by decide +kernel
  have linkless : (site "a").tree.IsLinkless := FileTree.isLinkless_of_entries (by decide +kernel)
  have notes : (Location.path ["notes", "contracts", "src", "java-stubs"]).IsResolved :=
    ⟨rfl, by decide +kernel⟩
  have agrees {near : Location → Prop} (away : ¬ near ["notes", "contracts", "src", "java-stubs"]) :
      AgreesOn near (site "a") (site "b") := by
    refine ⟨fun location => ?_, rfl⟩
    cases location with
    | nil => exact .inl rfl
    | cons name above =>
      by_cases same : name :: above = ["notes", "contracts", "src", "java-stubs"]
      · rw [same]
        exact .inr ⟨away, ⟨_, rfl⟩, _, rfl⟩
      · have other : (name :: above == ["notes", "contracts", "src", "java-stubs"]) = false := by simpa using same
        exact .inl (by simp only [FileTree.get?, site, List.lookup_cons, other])
  have there : (site "a").find .look (directory.child "../schemas//./") =
      .ok (.entry ["schemas", "contracts", "src", "java-stubs"] .directory) := by decide +kernel
  obtain ⟨nul, free, leads, once, run⟩ := load_confined settled some_names
  refine ⟨settled, some_names, nul _ _ _ (by decide +kernel), ?_, leads _ _ _ linkless there, ?_, ?_⟩
  · refine (free _ _ _ (by decide +kernel)).1.mpr ?_
    rw [IsNear, ← Path.text_startsWith_iff settled some_names (isResolved_resolved settled _)]
    decide +kernel
  · exact once _ _ _ _ linkless (agrees (by decide +kernel))
  · have away : ¬ IsNear directory (Location.path ["notes", "contracts", "src", "java-stubs"]) := by
      rw [IsNear, ← Path.text_startsWith_iff settled some_names notes]
      decide +kernel
    refine run [(site "a", site "b", "../notes"), (site "a", site "b", "x.json")] [] ?_
    intro disk other path member
    simp only [List.mem_cons, Prod.mk.injEq, List.not_mem_nil, or_false] at member
    rcases member with ⟨rfl, rfl, -⟩ | ⟨rfl, rfl, -⟩
    · exact ⟨linkless, agrees away⟩
    · exact ⟨linkless, agrees away⟩

/-- A request that leads beside the directory is not refused: if there is a file, it is read as a schema. -/
theorem load_reads_beside : ¬ IsUnder directory (resolved directory "../schemas.old/x.json") ∧
    (∀ disk, loadFrom directory disk [] "../schemas.old/x.json" =
      (readSchema disk (.ofText "/java-stubs/src/contracts/schemas.old/x.json")).map fun schema =>
        (schema, [("/java-stubs/src/contracts/schemas.old/x.json", schema)])) ∧
    load "../schemas.old/x.json" =
      .error (.file (.os ⟨.notFound, some "/java-stubs/src/contracts/schemas.old/x.json"⟩)) := by
  have place : resolved directory "../schemas.old/x.json" =
      .ofText "/java-stubs/src/contracts/schemas.old/x.json" := by decide +kernel
  have loaded (disk : Disk) : loadFrom directory disk [] "../schemas.old/x.json" =
      (readSchema disk (.ofText "/java-stubs/src/contracts/schemas.old/x.json")).map fun schema =>
        (schema, [("/java-stubs/src/contracts/schemas.old/x.json", schema)]) := by
    have text : (Path.ofText "/java-stubs/src/contracts/schemas.old/x.json").text =
      "/java-stubs/src/contracts/schemas.old/x.json" := by decide +kernel
    rw [loadFrom, if_neg (by decide +kernel), place]
    dsimp only
    rw [if_neg (by decide +kernel), text]
    cases readSchema disk (.ofText "/java-stubs/src/contracts/schemas.old/x.json") with
    | error fault => rfl
    | ok schema => rfl
  have read : ((Disk.readBytes (.ofText "/java-stubs/src/contracts/schemas.old/x.json")).run disk).1 =
      .error (.os ⟨.notFound, some "/java-stubs/src/contracts/schemas.old/x.json"⟩) := by decide +kernel
  refine ⟨?_, loaded, ?_⟩
  · rw [place, IsUnder]
    decide +kernel
  · rw [load, loaded, readSchema, read]
    rfl

end JavaStubs.Shipped

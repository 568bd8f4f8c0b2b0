import JavaStubs.Host.Places

/-!
Where names lead by paths without links. A walk takes one name after another from the root; how much
of the path has to be there depends on what it is for. Programs that tell about links: `readlink` and
`realpath`.
-/
namespace JavaStubs.Host

open Work

/-! ## Walks -/

/-- What of a path has to be there. -/
inductive Presence where
  | all
  | allButLast
  | nothing
  deriving DecidableEq, Repr

/-- How a path is walked. -/
structure Walk where
  presence : Presence
  /-- Whether links count as what they are. -/
  keepsLinks : Bool := false
  deriving DecidableEq, Repr

/-- Whether the names behind a place on a path ask for a directory there. -/
def asksDirectory : List String → Bool
  | [] => false
  | name :: rest =>
    if name == "" || name == "." then rest.isEmpty || asksDirectory rest else name == ".."

/-- Whether nothing but separators is behind a place on a path. -/
def isPathEnd (pending : List String) : Bool := pending.all (·.isEmpty)

/-- Why a place on a path is refused, if it is. -/
def Walk.fault? (walk : Walk) (disk : Disk) (location : Location) (pending : List String) :
    Option OsCause :=
  if walk.presence == .nothing then none
  else
    let seen := disk.resolve .look [] location.reverse
    let fault : Option OsCause := match seen with
      | .error cause => some cause
      | .ok (.vacant _) => some .notFound
      | .ok (.entry _ entry) =>
        if asksDirectory pending && !entry.isDirectory then some .notDirectory else none
    let isUnseen := walk.keepsLinks && !asksDirectory pending && !pending.isEmpty
    if isUnseen then none
    else match fault with
      | some .notFound =>
        if walk.presence == .allButLast && isPathEnd pending then none else some .notFound
      | fault => fault

/-- Where names lead from a location; `links` bounds the number of links on the way, and `fuel` that
of names. -/
def Walk.from_ (walk : Walk) (disk : Disk) : Nat → Nat → Location → List String →
    Except OsCause Location
  | 0, _, location, _ => .ok location
  | _ + 1, _, location, [] => .ok location
  | fuel + 1, links, location, name :: rest =>
    if name == "" || name == "." then walk.from_ disk fuel links location rest
    else if name == ".." then walk.from_ disk fuel links location.tail rest
    else
      let next := name :: location
      match if walk.keepsLinks then none else disk.tree.get? next with
      | some (.link target) =>
        match links with
        | 0 =>
          if walk.presence == .nothing then walk.from_ disk fuel 0 next rest
          else .error .tooManyLinks
        | links + 1 =>
          walk.from_ disk fuel links (FileTree.linkStart location target)
            (FileTree.linkNames target ++ rest)
      | _ =>
        match walk.fault? disk next rest with
        | some cause => .error cause
        | none => walk.from_ disk fuel links next rest

/-- Where a name leads by a path without links. -/
def Walk.locate (walk : Walk) (name : String) : Work (Except OsCause Location) := do
  let disk := (← get).disk
  let text := Octets.toText name
  if text.isEmpty then return .error .notFound
  return walk.from_ disk FileTree.pathLimit FileTree.linkLimit (FileTree.linkStart disk.here text)
    (Text.fieldsOf '/' text)

def locationText (location : Location) : String := Octets.ofText location.path.text

/-! ## Programs -/

/-- Prints the targets of links, or paths without links. -/
def readlink : Work Unit :=
  withOptions (options "femnqsvz" "" [("canonicalize", 'f'), ("canonicalize-existing", 'e'),
    ("canonicalize-missing", 'm'), ("no-newline", 'n'), ("quiet", 'q'), ("silent", 's'),
    ("verbose", 'v'), ("zero", 'z')]) 1 fun given => do
    let mark := if given.has 'z' then "\x00" else "\n"
    let isBare := given.has 'n'
    if given.operands.isEmpty then misuse "missing operand" 1
    if isBare && 1 < given.operands.length then
      complain "ignoring --no-newline with multiple arguments" 0
    let mark := if isBare && given.operands.length ≤ 1 then "" else mark
    given.operands.forM fun name => do
      match ← found given name with
      | .ok text => say (text ++ mark)
      | .error cause =>
        fail 1
        if given.last? ['v', 'q', 's'] == some 'v' then complainOf name cause 1
where
  /-- What is told about a name. -/
  found (given : Invocation) (name : String) : Work (Except OsCause String) := do
    let walked (presence : Presence) : Work (Except OsCause String) := do
      return (← Walk.locate ⟨presence, false⟩ name).map locationText
    match given.last? ['f', 'e', 'm'] with
    | some 'f' => walked .allButLast
    | some 'e' => walked .all
    | some _ => walked .nothing
    | none =>
      match ← entryAt .entry name with
      | .error cause => return .error cause
      | .ok (_, .link target) => return .ok (Octets.ofText target)
      | .ok _ => return .error (.other 22 "Invalid argument")

/-- Paths that others are told relative to. -/
structure RelativePaths where
  base : Option Location := none
  start : Option Location := none

def RelativePaths.tell (paths : RelativePaths) (location : Location) : String :=
  match paths.start with
  | none => locationText location
  | some start =>
    if paths.base.all (·.isSuffixOf location) then Octets.ofText (relativePath start location)
    else locationText location

/-- Prints paths without links. -/
def realpath : Work Unit :=
  withOptions (options "eLmPqsz" "\x01\x02" [("canonicalize-existing", 'e'),
    ("canonicalize-missing", 'm'), ("logical", 'L'), ("physical", 'P'), ("quiet", 'q'),
    ("strip", 's'), ("no-symlinks", 's'), ("zero", 'z'), ("relative-to", '\x01'),
    ("relative-base", '\x02')]) 1 fun given => do
    if given.operands.isEmpty then misuse "missing operand" 1
    else
      let mark := if given.has 'z' then "\x00" else "\n"
      match ← pathsOf given with
      | .error (name, cause) => complainOf name cause 1
      | .ok paths =>
        given.operands.forM fun name => do
          match ← located given name with
          | .ok location => say (paths.tell location ++ mark)
          | .error cause =>
            fail 1
            if !given.has 'q' then complainOf name cause 1
where
  /-- Where a name leads. -/
  located (given : Invocation) (name : String) : Work (Except OsCause Location) := do
    let presence : Presence := match given.last? ['e', 'm'] with
      | some 'e' => .all
      | some _ => .nothing
      | none => .allButLast
    match given.last? ['s', 'L', 'P'] with
    | some 's' => Walk.locate ⟨presence, true⟩ name
    | some 'L' =>
      match ← Walk.locate ⟨presence, true⟩ name with
      | .ok location => Walk.locate ⟨presence, false⟩ (locationText location)
      | .error cause => return .error cause
    | _ => Walk.locate ⟨presence, false⟩ name
  /-- Where the name of a directory leads. -/
  directory (given : Invocation) (name : String) :
      Work (Except (String × OsCause) Location) := do
    match ← located given name with
    | .error cause => return .error (name, cause)
    | .ok location =>
      let entry := (← get).disk.tree.get? location
      if given.last? ['e', 'm'] == some 'e' && !entry.any (·.isDirectory) then
        return .error (name, .notDirectory)
      return .ok location
  /-- What paths are told relative to. -/
  pathsOf (given : Invocation) : Work (Except (String × OsCause) RelativePaths) := do
    match given.value? '\x01', given.value? '\x02' with
    | none, none => return .ok {}
    | some start, none =>
      return (← directory given start).map fun start => ⟨none, some start⟩
    | none, some base =>
      return (← directory given base).map fun base => ⟨some base, some base⟩
    | some start, some base =>
      match ← directory given start, ← directory given base with
      | .ok start, .ok base =>
        return .ok (if base.isSuffixOf start then ⟨some base, some start⟩ else {})
      | .error fault, _ => return .error fault
      | _, .error fault => return .error fault

end JavaStubs.Host

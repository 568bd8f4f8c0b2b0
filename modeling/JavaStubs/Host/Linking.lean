import JavaStubs.Host.BasicTools
import JavaStubs.Host.Resolution

namespace JavaStubs.Host

open Work

/-! ## Plans -/

/-- How links are made. -/
structure LinkPlan where
  isSymbolic : Bool
  /-- Whether soft links lead from where they are. -/
  isRelative : Bool
  /-- Whether a link to a link is one to what that leads to. -/
  follows : Bool
  /-- Whether links to directories are tried. -/
  tries : Bool
  forces : Bool
  asks : Bool
  isVerbose : Bool
  keeping : Keeping

/-- Whether what is there may be replaced. -/
def LinkPlan.replaces (plan : LinkPlan) : Bool :=
  plan.forces || plan.asks || plan.keeping.kind.isSome

/-- Why an operation is refused that is open to nobody. -/
def notPermitted : OsCause := .other 1 "Operation not permitted"

/-- The place of a link, with what has it already. -/
def linkPlace (name : String) : Work (Except OsCause (Location × Option Entry)) := do
  match ← follow .entry (trimmedName name) with
  | .error cause => return .error cause
  | .ok (.vacant location) =>
    if name.endsWith "/" then return .error .notFound
    match ← changeFault? location with
    | some cause => return .error cause
    | none => return .ok (location, none)
  | .ok (.entry location entry) => return .ok (location, some entry)

/-- The path of a source from the directory of a link to it. -/
def relativeSource (source target : String) : Work String := do
  match ← Walk.locate ⟨.nothing, false⟩ (directoryOf target),
      ← Walk.locate ⟨.nothing, false⟩ source with
  | .ok directory, .ok location => return Octets.ofText (relativePath directory location)
  | _, _ => return source

/-- The complaint about a link that cannot be made. -/
def LinkPlan.complaint (plan : LinkPlan) (source target : String) (cause : OsCause) : String :=
  let ends : String :=
    if plan.isSymbolic then
      if source.isEmpty || cause == .nameTooLong then s!" -> {quotedName source}" else ""
    else if cause == .alreadyExists then "" else s!" => {quotedName source}"
  let kind := if plan.isSymbolic then "symbolic" else "hard"
  s!"failed to create {kind} link {quotedName target}{ends}: {cause.wording}"

/-! ## Links -/

/-- Puts a link at a free place, and tells about it. -/
def putLink (plan : LinkPlan) (source target : String) (location spot : Location) (entry : Entry)
    (kept : Option String) : Work Unit := do
  let link := Entry.link (Octets.toText source)
  if plan.isSymbolic then place spot link link.usualMode else place spot entry (← modeAt location)
  if plan.isVerbose then
    let start := (kept.map fun name => quotedName name ++ " ~ ").getD ""
    let arrow := if plan.isSymbolic then "->" else "=>"
    say s!"{start}{quotedName target} {arrow} {quotedName source}\n"

/-- Whether a link would take the place of what it leads to. -/
def leadsToItself (plan : LinkPlan) (source : String) (location spot : Location) : Work Bool := do
  if !plan.isSymbolic then return location == spot
  if plan.keeping.kind.isSome then return false
  match ← entryAt .look source with
  | .ok (other, _) => return other == spot
  | .error _ => return false

/-- Puts a link where something else is, if that is allowed; `made` has the links that must not be
lost. Tells where the link is. -/
def replaceByLink (plan : LinkPlan) (made : List Location) (source target : String)
    (location spot : Location) (entry old : Entry) : Work (Option Location) := do
  let refused (message : String) : Work (Option Location) := do
    complain message 1
    return none
  if old.isDirectory then refused s!"{shownName target}: cannot overwrite directory"
  else if made.contains spot then
    refused s!"will not overwrite just-created {quotedName target} with {quotedName source}"
  else if ← leadsToItself plan source location spot then
    refused s!"{quotedName source} and {quotedName target} are the same file"
  else
    let goesOn ← if plan.asks then confirmed s!"replace {quotedName target}" else pure true
    if !goesOn then return none
    if plan.isSymbolic && source.isEmpty then refused (plan.complaint source target .notFound)
    else if !plan.isSymbolic && entry.isDirectory then
      refused (plan.complaint source target notPermitted)
    else
      let kept ← plan.keeping.keep spot
      clear spot
      putLink plan source target location spot entry (kept.map (besideName target))
      return some spot

/-- Makes a link; `made` has the links that must not be lost. Tells where the link is. -/
def makeLink (plan : LinkPlan) (made : List Location) (source target : String) :
    Work (Option Location) := do
  let refused (message : String) : Work (Option Location) := do
    complain message 1
    return none
  let found ← if plan.isSymbolic then pure (.ok ([], .link source))
    else entryAt (if plan.follows then .look else .entry) source
  match found, ← linkPlace target with
  | .error cause, _ => refused s!"failed to access {quotedName source}: {cause.wording}"
  | .ok (location, entry), spot =>
    let source ← if plan.isRelative then relativeSource source target else pure source
    let fault : Option OsCause := match spot with
      | .error cause => some cause
      | .ok (_, some _) => some .alreadyExists
      | .ok (_, none) =>
        if plan.isSymbolic && source.isEmpty then some .notFound
        else if entry.isDirectory then some notPermitted else none
    match fault, spot with
    | none, .ok (spot, _) =>
      putLink plan source target location spot entry none
      return some spot
    | none, .error cause => refused (plan.complaint source target cause)
    | some cause, spot =>
      if entry.isDirectory && !plan.tries then
        refused s!"{shownName source}: hard link not allowed for directory"
      else if !plan.replaces then refused (plan.complaint source target cause)
      else match spot with
        | .ok (_, none) => refused (plan.complaint source target cause)
        | .error .notFound => refused (plan.complaint source target cause)
        | .error cause => refused s!"failed to access {quotedName target}: {cause.wording}"
        | .ok (spot, some old) =>
          if target.endsWith "/" && !old.isDirectory then
            refused s!"failed to access {quotedName target}: {OsCause.notDirectory.wording}"
          else replaceByLink plan made source target location spot entry old

def linkInto (plan : LinkPlan) (directory : String) (sources : List String) : Work Unit := do
  let isGuarded := 2 ≤ sources.length && plan.forces && !plan.isSymbolic &&
    plan.keeping.kind != some .numbered
  let _ ← sources.foldlM (fun made source => do
    match ← makeLink plan made source (insideName directory (lastPart source)) with
    | some spot => return if isGuarded then spot :: made else made
    | none => return made) []

/-! ## The program -/

def linkOptions : OptionTable :=
  { options "bdfFiLnPrsTv" "St" [("backup", backupWord), ("directory", 'd'), ("force", 'f'),
      ("interactive", 'i'), ("logical", 'L'), ("no-dereference", 'n'), ("physical", 'P'),
      ("relative", 'r'), ("symbolic", 's'), ("no-target-directory", 'T'), ("verbose", 'v'),
      ("suffix", 'S'), ("target-directory", 't')]
    with optional := [backupWord] }

/-- Why a name leads to no directory, if it does not. -/
def directoryFault? (follows : Bool) (name : String) : Work (Option OsCause) := do
  match ← entryAt (if follows then .look else .entry) name with
  | .ok (_, .directory) => return none
  | .ok _ => return some .notDirectory
  | .error cause => return some cause

/-- Makes links. -/
def ln : Work Unit :=
  withOptions linkOptions 1 fun given => do
    let directories := (given.options.filter (·.1 == 't')).map Prod.snd
    match directories with
    | _ :: _ :: _ => complain "multiple target directories specified" 1
    | [] => choose given none
    | [name] =>
      match ← entryAt .look name with
      | .error cause => complain s!"failed to access {quotedName name}: {cause.wording}" 1
      | .ok (_, .directory) => choose given (some name)
      | .ok _ => complain s!"target {quotedName name} is not a directory" 1
where
  /-- Makes the links that operands ask for, in a directory if one is given. -/
  choose (given : Invocation) (directory : Option String) : Work Unit := do
    let names := given.operands
    if names.isEmpty then misuse "missing file operand" 1
    else if given.has 'r' && !given.has 's' then
      complain "cannot do --relative without --symbolic" 1
    else if given.has 'T' then
      match directory, names with
      | some _, _ => complain "cannot combine --target-directory and --no-target-directory" 1
      | none, [source, target] => go given fun plan => file plan source target
      | none, _ :: _ :: extra :: _ => misuse s!"extra operand {quotedName extra}" 1
      | none, names =>
        let only := names.headD ""
        misuse s!"missing destination file operand after {quotedName only}" 1
    else match directory, names with
      | some directory, names => go given fun plan => linkInto plan directory names
      | none, [only] => go given fun plan => linkInto plan "." [only]
      | none, names =>
        let last := names.getLast?.getD ""
        match ← directoryFault? (!given.has 'n') last, names with
        | none, _ => go given fun plan => linkInto plan last names.dropLast
        | some _, [source, target] => go given fun plan => file plan source target
        | some cause, _ => complain s!"target {quotedName last}: {cause.wording}" 1
  /-- Goes on with the plan that options describe. -/
  go (given : Invocation) (work : LinkPlan → Work Unit) : Work Unit := do
    match Keeping.ofOptions given.options (← get).call.environment with
    | .error fault => misuse fault.message 1
    | .ok keeping =>
      work {
        isSymbolic := given.has 's', isRelative := given.has 'r'
        follows := given.last? ['L', 'P'] == some 'L'
        tries := given.has 'd' || given.has 'F'
        forces := given.last? ['f', 'i'] == some 'f'
        asks := given.last? ['f', 'i'] == some 'i'
        isVerbose := given.has 'v', keeping }
  /-- Makes one link under another name. -/
  file (plan : LinkPlan) (source target : String) : Work Unit := do
    let _ ← makeLink plan [] source target

/-- Makes a link under a name that has to be free. -/
def link : Work Unit :=
  withOptions (options "" "" []) 1 fun given => do
    match given.operands with
    | [] => misuse "missing operand" 1
    | [only] => misuse s!"missing operand after {quotedName only}" 1
    | _ :: _ :: extra :: _ => extraOperand extra 1
    | [source, target] =>
      let refused (cause : OsCause) : Work Unit :=
        complain s!"cannot create link {quotedName target} to {quotedName source}: {cause.wording}" 1
      match ← entryAt .entry source, ← linkPlace target with
      | .error cause, _ => refused cause
      | _, .error cause => refused cause
      | _, .ok (_, some _) => refused .alreadyExists
      | .ok (location, entry), .ok (spot, none) =>
        if entry.isDirectory then refused notPermitted
        else place spot entry (← modeAt location)

end JavaStubs.Host

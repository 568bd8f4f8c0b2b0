import JavaStubs.Proofs.Journal.Appending

/-!
A journal on two disks that hold the same around its directory. Whatever else is different there, an event that is
added comes to the same on both.
-/
namespace JavaStubs

open JavaStubs.Path (IsName)

/-! ## Jobs from two states -/

section Jobs
variable {ε σ α β : Type}

/-- From two states that are alike, two jobs come to the same, a fault or a value of some kind, and leave states
that are alike. -/
def RunAlike (alike : σ → σ → Prop) (good : α → Prop) (job other : ExceptT ε (StateM σ) α) : Prop :=
  ∀ s s', alike s s' → Ends job s fun r after => Ends other s' fun r' after' =>
    r' = r ∧ alike after after' ∧ ∀ value, r = .ok value → good value

namespace RunAlike

variable {alike : σ → σ → Prop} {good : α → Prop} {job other : ExceptT ε (StateM σ) α}

theorem pure {value : α} (holds : good value) : RunAlike (ε := ε) alike good (pure value) (pure value) :=
  fun _ _ same => ⟨rfl, same, fun _ done => Except.ok.inj done ▸ holds⟩

theorem throw (fault : ε) :
    RunAlike alike good (throw fault : ExceptT ε (StateM σ) α) (throw fault : ExceptT ε (StateM σ) α) :=
  fun _ _ same => ⟨rfl, same, nofun⟩

theorem bind {last : β → Prop} {next next' : α → ExceptT ε (StateM σ) β} (first : RunAlike alike good job other)
    (others : ∀ value, good value → RunAlike alike last (next value) (next' value)) :
    RunAlike alike last (job >>= next) (other >>= next') := by
  intro s s' same
  have ends := first s s' same
  obtain ⟨r, after, run⟩ := Ends.exists_run job s
  obtain ⟨r', after', run'⟩ := Ends.exists_run other s'
  rw [Ends.of_run run, Ends.of_run run'] at ends
  simp only [Ends.bind_iff, Ends.of_run run, Ends.of_run run']
  obtain ⟨rfl, same, holds⟩ := ends
  cases r' with
  | ok value => exact others value (holds value rfl) after after' same
  | error fault => exact ⟨rfl, same, nofun⟩

theorem get_bind {next next' : σ → ExceptT ε (StateM σ) α}
    (each : ∀ s s', alike s s' → RunAlike alike good (next s) (next' s')) :
    RunAlike alike good (get >>= next) (get >>= next') :=
  fun s s' same => each s s' same s s' same

theorem tryCatch {handle handle' : ε → ExceptT ε (StateM σ) α} (first : RunAlike alike good job other)
    (others : ∀ fault, RunAlike alike good (handle fault) (handle' fault)) :
    RunAlike alike good (tryCatch job handle) (tryCatch other handle') := by
  intro s s' same
  have ends := first s s' same
  obtain ⟨r, after, run⟩ := Ends.exists_run job s
  obtain ⟨r', after', run'⟩ := Ends.exists_run other s'
  rw [Ends.of_run run, Ends.of_run run'] at ends
  simp only [Ends.tryCatch_iff, Ends.of_run run, Ends.of_run run']
  obtain ⟨rfl, same, holds⟩ := ends
  cases r' with
  | ok value => exact ⟨rfl, same, holds⟩
  | error fault => exact others fault after after' same

theorem modify {change : σ → σ} (same : ∀ s s', alike s s' → alike (change s) (change s')) :
    RunAlike (ε := ε) alike (fun _ => True) (modify change) (modify change) :=
  fun s s' here => ⟨rfl, same s s' here, fun _ _ => trivial⟩

theorem ite {condition : Prop} [Decidable condition] {job' other' : ExceptT ε (StateM σ) α}
    (yes : condition → RunAlike alike good job other) (no : ¬ condition → RunAlike alike good job' other') :
    RunAlike alike good (if condition then job else job') (if condition then other else other') := by
  split
  · next holds => exact yes holds
  · next fails => exact no fails

end RunAlike
end Jobs

/-! ## Around a location -/

/-- Where a path leads on which no links are. -/
def Path.placeFrom (here : Location) (path : Path) : Location :=
  path.names.reverse ++ if path.isAbsolute then [] else here

/-- A path leads by nothing but names, up to the last one, to a place around a location. -/
structure Path.StaysAround (here root : Location) (path : Path) : Prop where
  named : ∀ name ∈ path.names.dropLast, IsName name
  around : root.IsAround (path.placeFrom here)

namespace FileTree

variable {root location : Location} {tree other : FileTree} {enters enters' : Location → Bool} {purpose : Purpose}
  {links : Nat} {names : List String}

/-- Names that lead to a place around a location lead there in every tree that holds the same around it, if there
are no links. -/
theorem resolve_around
    (same : ∀ location, root.IsAround location →
      other.get? location = tree.get? location ∧ enters' location = enters location)
    (no_link : ∀ location target, root.IsAround location → tree.get? location ≠ some (.link target))
    (named : ∀ name ∈ names.dropLast, IsName name) (around : root.IsAround (names.reverse ++ location)) :
    other.resolve enters' purpose links location names = tree.resolve enters purpose links location names ∧
      ∀ found, tree.resolve enters purpose links location names = .ok found → root.IsAround found.location := by
  have above {name : String} {names : List String} {location : Location}
      (around : root.IsAround ((name :: names).reverse ++ location)) :
      root.IsAround (name :: location) ∧ root.IsAround location := by
    have here : root.IsAround (name :: location) := around.of_suffix ⟨names.reverse, by simp⟩
    exact ⟨here, here.of_suffix (List.suffix_cons _ _)⟩
  -- what is no name can only stand at the end
  have last {name : String} {names : List String} (named : ∀ other ∈ (name :: names).dropLast, IsName other)
      (unnamed : ¬ IsName name) : names = [] := by
    cases names with
    | nil => rfl
    | cons next names => exact absurd (named name (by simp)) unnamed
  have rest {name : String} {names : List String} (named : ∀ other ∈ (name :: names).dropLast, IsName other) :
      ∀ other ∈ names.dropLast, IsName other := by
    intro other member
    cases names with
    | nil => cases member
    | cons next names => exact named other (List.mem_cons_of_mem name member)
  fun_induction FileTree.resolve tree enters purpose links location names with
  | case1 links location =>
    rw [resolve]
    refine ⟨rfl, fun found done => ?_⟩
    cases done
    exact around
  | case2 links location names ih =>
    obtain rfl := last named fun is => is.nonempty rfl
    rw [resolve_blank]
    exact ih (rest named) (above around).2
  | case3 links location name names nonempty entered =>
    rw [← (same _ (above around).2).2] at entered
    rw [resolve, if_neg nonempty, if_pos entered]
    exact ⟨rfl, by simp⟩
  | case4 links location names entered _ ih =>
    obtain rfl := last named fun is => is.not_dot rfl
    rw [← (same _ (above around).2).2] at entered
    rw [resolve_dot entered]
    exact ih (rest named) (above around).2
  | case5 links location names entered _ _ ih =>
    obtain rfl := last named fun is => is.not_dots rfl
    rw [← (same _ (above around).2).2] at entered
    rw [resolve_dots entered]
    exact ih (rest named) ((above around).2.of_suffix (List.tail_suffix _))
  | case6 links location name names nonempty entered not_dot not_dots on =>
    rw [← (same _ (above around).2).2] at entered
    rw [resolve, if_neg nonempty, if_neg entered, if_neg not_dot, if_neg not_dots, if_pos on]
    exact ⟨rfl, by simp⟩
  | case7 links location name names nonempty entered not_dot not_dots on long =>
    rw [← (same _ (above around).2).2] at entered
    rw [resolve, if_neg nonempty, if_neg entered, if_neg not_dot, if_neg not_dots, if_neg on, if_pos long]
    exact ⟨rfl, by simp⟩
  | case8 links location name names nonempty entered not_dot not_dots on short vacant done =>
    rw [← (same _ (above around).2).2] at entered
    rw [resolve, if_neg nonempty, if_neg entered, if_neg not_dot, if_neg not_dots, if_neg on, if_neg short,
      (same _ (above around).1).1, vacant]
    simp only [if_pos done]
    exact ⟨trivial, by rintro _ ⟨⟩; exact (above around).1⟩
  | case9 links location name names nonempty entered not_dot not_dots on short vacant more =>
    rw [← (same _ (above around).2).2] at entered
    rw [resolve, if_neg nonempty, if_neg entered, if_neg not_dot, if_neg not_dots, if_neg on, if_neg short,
      (same _ (above around).1).1, vacant]
    simp only [if_neg more]
    exact ⟨trivial, by simp⟩
  | case10 links location name names nonempty entered not_dot not_dots on short held ih =>
    rw [← (same _ (above around).2).2] at entered
    have held' := (same _ (above around).1).1.trans held
    rw [resolve_directory nonempty entered not_dot not_dots on short held']
    exact ih (rest named) (by simpa using around)
  | case11 links location name names _ _ _ _ _ _ target held =>
    exact absurd held (no_link _ target (above around).1)
  | case12 location name names _ _ _ _ _ _ target held =>
    exact absurd held (no_link _ target (above around).1)
  | case13 location name names _ _ _ _ _ _ target held =>
    exact absurd held (no_link _ target (above around).1)
  | case14 links location name names nonempty entered not_dot not_dots on short entry no_directory no_link held
      done =>
    rw [← (same _ (above around).2).2] at entered
    have held' := (same _ (above around).1).1.trans held
    have free : ∀ target, other.get? (name :: location) ≠ some (.link target) := fun target also =>
      no_link target (Option.some.inj (held'.symm.trans also))
    rw [resolve_end nonempty entered not_dot not_dots on short done free, FileTree.found, held']
    exact ⟨rfl, by rintro _ ⟨⟩; exact (above around).1⟩
  | case15 links location name names nonempty entered not_dot not_dots on short entry no_directory no_link held
      more =>
    rw [← (same _ (above around).2).2] at entered
    rw [resolve, if_neg nonempty, if_neg entered, if_neg not_dot, if_neg not_dots, if_neg on, if_neg short,
      (same _ (above around).1).1, held]
    cases entry with
    | directory => exact absurd rfl no_directory
    | link target => exact absurd rfl (no_link target)
    | _ => exact ⟨by simp only [if_neg more], by simp⟩

/-- If names lead to an entry and no link is around, something lies at the place that they spell. -/
theorem there_of_resolve {place : Location} {entry : Entry}
    (no_link : ∀ location target, root.IsAround location → tree.get? location ≠ some (.link target))
    (named : ∀ name ∈ names, IsName name) (some_names : names ≠ [])
    (around : root.IsAround (names.reverse ++ location))
    (leads : tree.resolve enters purpose links location names = .ok (.entry place entry)) :
    tree.get? (names.reverse ++ location) ≠ none := by
  induction names generalizing location with
  | nil => exact absurd rfl some_names
  | cons name rest ih =>
    have is := named name List.mem_cons_self
    have here : root.IsAround (name :: location) := around.of_suffix ⟨rest.reverse, by simp⟩
    have onward : (name :: rest).reverse ++ location = rest.reverse ++ name :: location := by simp
    rw [onward] at around ⊢
    rw [resolve, if_neg is.nonempty] at leads
    split at leads
    · cases leads
    rw [if_neg is.not_dot, if_neg is.not_dots] at leads
    split at leads
    · cases leads
    split at leads
    · cases leads
    split at leads
    · split at leads <;> cases leads
    · next held =>
      by_cases last : rest = []
      · subst last
        simp [held]
      · exact ih (fun other member => named other (List.mem_cons_of_mem name member)) last around leads
    · next target held => exact absurd held (no_link _ target here)
    · next held =>
      split at leads
      · next last =>
        obtain rfl := List.isEmpty_iff.mp last
        simp [held]
      · cases leads

end FileTree

namespace Disk

/-- Around a location two disks hold the same, with the same rights, and no links. -/
structure AlikeAround (here root : Location) (disk other : Disk) : Prop where
  here : disk.here = here ∧ other.here = here
  mask : other.mask = disk.mask
  occupied : disk.tree.entries ≠ [] ∧ other.tree.entries ≠ []
  same : ∀ location, root.IsAround location → SameAt disk other location
  no_link : ∀ location target, root.IsAround location → disk.tree.get? location ≠ some (.link target)

namespace AlikeAround

variable {here root location : Location} {disk other : Disk} {path : Path} {entry : Entry}

theorem find_eq (alike : AlikeAround here root disk other) (stays : path.StaysAround here root)
    (purpose : FileTree.Purpose) :
    other.find purpose path = disk.find purpose path ∧
      ∀ found, disk.find purpose path = .ok found → root.IsAround found.location := by
  have starts : other.start path = disk.start path := by rw [start, start, alike.here.1, alike.here.2]
  have around : root.IsAround (path.names.reverse ++ disk.start path) := by
    rw [start, alike.here.1]
    exact stays.around
  obtain ⟨resolved, ends⟩ := @FileTree.resolve_around root (disk.start path) disk.tree other.tree disk.enters
    other.enters purpose FileTree.linkLimit path.names
    (fun location around => ⟨(alike.same location around).1, (alike.same location around).enters⟩)
    alike.no_link stays.named around
  refine ⟨?_, fun found success => ends found (resolve_of_find success)⟩
  unfold find Disk.resolve
  rw [starts, resolved]
  cases reached : disk.tree.resolve disk.enters purpose FileTree.linkLimit (disk.start path) path.names with
  | error cause => rfl
  | ok found =>
    have here := ends found reached
    cases purpose with
    | write =>
      cases found with
      | vacant location =>
        have above : other.mayChange location = disk.mayChange location :=
          (alike.same _ (here.of_suffix (List.tail_suffix location))).grants .write
        change (if _ then _ else if other.mayChange location then _ else _) = _
        rw [above]
        rfl
      | entry location entry =>
        have granted : other.grants .write location = disk.grants .write location :=
          (alike.same _ here).grants .write
        cases entry with
        | file content =>
          change (if _ then _ else if other.grants .write location then _ else _) = _
          rw [granted]
          rfl
        | _ => rfl
    | _ => rfl

theorem withEntry (alike : AlikeAround here root disk other) (location : Location)
    (no_link : ∀ target, entry ≠ .link target) :
    AlikeAround here root (disk.withEntry location entry) (other.withEntry location entry) where
  here := alike.here
  mask := alike.mask
  occupied := ⟨nofun, nofun⟩
  same := by
    intro place around
    refine ⟨?_, (alike.same place around).2⟩
    by_cases there : place = location
    · subst there
      cases place with
      | nil => rfl
      | cons name directory =>
        exact (@get?_withEntry_self other _ _ _).trans (@get?_withEntry_self disk _ _ _).symm
    · have kept (disk : Disk) : (disk.withEntry location entry).tree.get? place = disk.tree.get? place :=
        FileTree.get?_put_of_ne there
      rw [kept, kept, (alike.same place around).1]
  no_link := by
    intro place target around link
    by_cases there : place = location
    · subst there
      cases place with
      | nil => cases link
      | cons name directory =>
        rw [get?_withEntry_self] at link
        exact no_link target (Option.some.inj link)
    · rw [(withEntry_sameBut entry place there).1] at link
      exact alike.no_link place target around link

theorem withMode (alike : AlikeAround here root disk other) (around : root.IsAround location) (mode : Nat) :
    AlikeAround here root (disk.withMode location mode) (other.withMode location mode) where
  here := alike.here
  mask := alike.mask
  occupied := alike.occupied
  no_link := alike.no_link
  same := by
    intro place also
    refine ⟨(alike.same place also).1, ?_⟩
    by_cases there : place = location
    · subst there
      have cleared (modes : List (Location × Nat)) : (modes.filter (·.1 != place)).lookup place = none := by
        rw [FileTree.lookup_filter_ne, if_pos rfl]
      unfold Disk.withMode
      simp only [(alike.same place around).1]
      split
      · rw [cleared, cleared]
      · rw [List.lookup_cons_self, List.lookup_cons_self]
    · rw [(withMode_sameBut mode place there).2, (withMode_sameBut mode place there).2, (alike.same place also).2]

end AlikeAround

/-! ### Operations on a disk -/

section Operations
variable {here root location : Location} {path : Path}

theorem refuse_alike {α : Type} {good : α → Prop} (cause : OsCause) (path : Path) :
    RunAlike (AlikeAround here root) good (refuse cause path) (refuse cause path) :=
  .throw _

theorem seek_alike (purpose : FileTree.Purpose) (stays : path.StaysAround here root) :
    RunAlike (AlikeAround here root) (fun found => root.IsAround found.location) (seek purpose path)
      (seek purpose path) := by
  have checked : RunAlike (AlikeAround here root) (fun _ => True) (checkName path) (checkName path) :=
    .ite (fun _ => .throw _) fun _ => .pure trivial
  refine .bind checked fun _ _ => ?_
  refine .get_bind fun disk other alike => ?_
  obtain ⟨same, ends⟩ := alike.find_eq stays purpose
  rw [same]
  split
  · next found reached => exact .pure (ends found reached)
  · exact refuse_alike _ _

theorem putNew_alike {entry : Entry} (around : root.IsAround location) (no_link : ∀ target, entry ≠ .link target)
    (mode : Nat) : RunAlike (AlikeAround here root) (fun _ => True) (putNew location entry mode)
      (putNew location entry mode) := by
  refine .bind (.modify fun disk other alike => alike.withEntry location no_link) fun _ _ => ?_
  refine .modify fun disk other alike => ?_
  have masked : other.masked mode = disk.masked mode := by rw [Disk.masked, Disk.masked, alike.mask]
  rw [masked]
  exact alike.withMode around _

theorem putFile_alike (around : root.IsAround location) (content : Content) :
    RunAlike (AlikeAround here root) (fun _ => True) (putFile location content) (putFile location content) := by
  refine .get_bind fun disk other alike => ?_
  rw [(alike.same location around).1]
  split
  · exact putNew_alike around (by rintro _ ⟨⟩) _
  · exact .pure trivial
  · exact .modify fun disk other alike => alike.withEntry location fun _ => nofun

theorem checkChange_alike (around : root.IsAround location) (path : Path) :
    RunAlike (AlikeAround here root) (fun _ => True) (checkChange location path) (checkChange location path) := by
  refine .get_bind fun disk other alike => ?_
  have above := (alike.same _ (around.of_suffix (List.tail_suffix location))).grants .write
  rw [mayChange, mayChange, above]
  exact .ite (fun _ => refuse_alike _ _) fun _ => .pure trivial

theorem probe_alike (stays : path.StaysAround here root) :
    RunAlike (AlikeAround here root) (fun _ => True) (probe path) (probe path) := by
  refine .ite (fun _ => .pure trivial) fun _ => .get_bind fun disk other alike => ?_
  rw [(alike.find_eq stays .look).1]
  split
  · exact .pure trivial
  · exact .pure trivial
  · exact .ite (fun _ => .pure trivial) fun _ => refuse_alike _ _

theorem makeDirectory_alike (stays : path.StaysAround here root) :
    RunAlike (AlikeAround here root) (fun _ => True) (makeDirectory path) (makeDirectory path) := by
  refine .bind (seek_alike .entry stays) fun found around => ?_
  cases found with
  | vacant location =>
    exact .bind (checkChange_alike around path) fun _ _ => putNew_alike around (by rintro _ ⟨⟩) _
  | entry location entry => exact refuse_alike _ _

/-- A directory that is there already will do. -/
private theorem there_alike (stays : path.StaysAround here root) (fault : FileFault) :
    RunAlike (AlikeAround here root) (fun _ => True) (do if ← isDirectory path then pure () else throw fault)
      (do if ← isDirectory path then pure () else throw fault) := by
  have looks : RunAlike (AlikeAround here root) (fun _ => True) (isDirectory path) (isDirectory path) :=
    .bind (probe_alike stays) fun _ _ => .pure trivial
  exact .bind looks fun _ _ => .ite (fun _ => .pure trivial) fun _ => .throw _

theorem ensureDirectory_alike (stays : path.StaysAround here root) :
    RunAlike (AlikeAround here root) (fun _ => True) (ensureDirectory path) (ensureDirectory path) := by
  refine .tryCatch (makeDirectory_alike stays) fun fault => ?_
  split
  · exact .throw _
  · exact there_alike stays _
  · exact .throw _

theorem parent_stays (stays : path.StaysAround here root) : path.parent.StaysAround here root where
  named name member := stays.named name (List.dropLast_subset _ member)
  around := by
    obtain ⟨last, whole⟩ : path.parent.names.reverse <:+ path.names.reverse :=
      List.reverse_suffix.mpr (List.dropLast_prefix _)
    refine stays.around.of_suffix ⟨last, ?_⟩
    rw [Path.placeFrom, Path.placeFrom, ← List.append_assoc, whole]
    rfl

theorem makeDirectories_alike (stays : path.StaysAround here root) :
    RunAlike (AlikeAround here root) (fun _ => True) (makeDirectories path) (makeDirectories path) := by
  unfold makeDirectories
  generalize path.names.length = above
  induction above generalizing path with
  | zero => exact ensureDirectory_alike stays
  | succ above ih =>
    refine .tryCatch (makeDirectory_alike stays) fun fault => ?_
    split
    · exact .bind (ih (parent_stays stays)) fun _ _ => ensureDirectory_alike stays
    · exact there_alike stays _
    · exact .throw _

theorem append_alike (stays : path.StaysAround here root) (bytes : ByteArray) :
    RunAlike (AlikeAround here root) (fun _ => True) (append path bytes) (append path bytes) := by
  have opens : RunAlike (AlikeAround here root) (fun opened => root.IsAround opened.1) (openForWriting path)
      (openForWriting path) := by
    refine .bind (seek_alike .write stays) fun found around => ?_
    cases found with
    | vacant location => exact .pure around
    | entry location entry =>
      cases entry with
      | file content => exact .pure around
      | sink => exact .pure around
      | program => exact refuse_alike _ _
      | directory => exact refuse_alike _ _
      | link target => exact refuse_alike _ _
  exact .bind opens fun opened around => putFile_alike around _

end Operations
end Disk

/-! ## A journal -/

/-- From two worlds whose disks are alike around a location, journals see no difference. -/
structure World.AlikeAround (here root : Location) (world other : World) : Prop where
  now : other.now = world.now
  journalFile : other.journalFile = world.journalFile
  disk : world.disk.AlikeAround here root other.disk

namespace Journal

open Disk (AlikeAround)

variable {journal : Journal} {here root : Location} {day path : Path} {disk other : Disk} {number : Nat}

/-- The directory of a day lies in a directory, by a path of nothing but names. -/
structure IsDayIn (here root : Location) (day : Path) : Prop where
  named : ∀ name ∈ day.names, IsName name
  some_names : day.names ≠ []
  below : root <:+ day.placeFrom here

theorem IsDayIn.stays (is : IsDayIn here root day) : day.StaysAround here root :=
  ⟨fun name member => is.named name (List.dropLast_subset _ member), .inr is.below⟩

theorem IsDayIn.stays_inside (is : IsDayIn here root day) (above : path.parent = day) :
    path.StaysAround here root := by
  subst above
  refine ⟨is.named, .inr (is.below.trans ?_)⟩
  obtain ⟨last, whole⟩ : path.parent.names.reverse <:+ path.names.reverse :=
    List.reverse_suffix.mpr (List.dropLast_prefix _)
  refine ⟨last, ?_⟩
  rw [Path.placeFrom, Path.placeFrom, ← List.append_assoc, whole]
  rfl

theorem parent_fileOf (day : Path) (number : Nat) : (day.child (fileName number)).parent = day :=
  Path.parent_child (isName_fileName number)

theorem hasRoom_alike (journal : Journal) (stays : path.StaysAround here root) :
    RunAlike (AlikeAround here root) (fun _ => True) (journal.hasRoom path) (journal.hasRoom path) := by
  refine .bind (Disk.probe_alike stays) fun found _ => ?_
  split <;> exact .pure trivial

theorem reads_hasRoom (journal : Journal) (path : Path) : Reads (journal.hasRoom path) := by
  refine .bind (Disk.reads_probe path) fun found => ?_
  split <;> exact .pure _

/-- A file of a day is there, and has no room. -/
def IsFull (journal : Journal) (day : Path) (disk : Disk) (number : Nat) : Prop :=
  Ends (journal.hasRoom (day.child (fileName number))) disk fun r _ => r = .ok false

/-- However far the search for a file with room may go, it comes to the same if it ends before. -/
theorem firstWithRoom_alike {files files' last : Nat} (is : IsDayIn here root day)
    (alike : AlikeAround here root disk other) (from_number : number ≤ last) (reached : last < number + files)
    (reached' : last < number + files') (ends : ¬ journal.IsFull day disk last) :
    Ends (journal.firstWithRoom day files number) disk fun r after =>
      Ends (journal.firstWithRoom day files' number) other fun r' after' =>
        r' = r ∧ AlikeAround here root after after' ∧ ∀ path, r = .ok path → path.StaysAround here root := by
  induction files generalizing number files' with
  | zero => omega
  | succ files ih =>
    obtain ⟨files', rfl⟩ := Nat.exists_eq_succ_of_ne_zero (show files' ≠ 0 by omega)
    have stays := is.stays_inside (parent_fileOf day number)
    have same := hasRoom_alike journal stays disk other alike
    obtain ⟨r, run⟩ := (reads_hasRoom journal (day.child (fileName number))).run disk
    obtain ⟨r', run'⟩ := (reads_hasRoom journal (day.child (fileName number))).run other
    rw [Ends.of_run run, Ends.of_run run'] at same
    obtain ⟨rfl, -⟩ := same
    unfold firstWithRoom
    simp only [Ends.bind_iff, Ends.of_run run, Ends.of_run run']
    cases r' with
    | error fault => exact ⟨rfl, alike, by simp⟩
    | ok room =>
      cases room with
      | true => exact ⟨rfl, alike, fun path done => Except.ok.inj done ▸ stays⟩
      | false =>
        have passed : number ≠ last := by
          rintro rfl
          exact ends ((Ends.of_run run).mpr rfl)
        exact ih (by omega) (by omega) (by omega)

theorem isFull_iff (is : IsDayIn here root day) (alike : AlikeAround here root disk other) :
    journal.IsFull day other number ↔ journal.IsFull day disk number := by
  have same := hasRoom_alike journal (is.stays_inside (parent_fileOf day number)) disk other alike
  obtain ⟨r, after, run⟩ := Ends.exists_run (journal.hasRoom (day.child (fileName number))) disk
  obtain ⟨r', after', run'⟩ := Ends.exists_run (journal.hasRoom (day.child (fileName number))) other
  rw [Ends.of_run run, Ends.of_run run'] at same
  rw [IsFull, IsFull, Ends.of_run run, Ends.of_run run', same.1]

section

-- a job in a goal would be evaluated when a rule is applied to the goal
attribute [local irreducible] Ends

/-- What is full is there, in the directory of its day. -/
theorem IsFull.there (full : journal.IsFull day disk number) (is : IsDayIn here root day)
    (from_here : disk.here = here)
    (no_link : ∀ location target, root.IsAround location → disk.tree.get? location ≠ some (.link target)) :
    disk.tree.get? (fileName number :: day.placeFrom here) ≠ none ∧
      disk.tree.get? (day.placeFrom here) ≠ none := by
  have found : ∃ place entry,
      disk.find .look (day.child (fileName number)) = .ok (.entry place entry) := by
    by_contra lost
    have room : Ends (journal.hasRoom (day.child (fileName number))) disk fun r _ => r ≠ .ok false := by
      unfold hasRoom
      rw [Ends.bind_iff]
      exact Disk.probe_ends (fun place entry reached => absurd ⟨place, entry, reached⟩ lost)
        (Ends.pure_iff.mpr nofun) fun refusal => nofun
    obtain ⟨r, after, yes, no⟩ := (Ends.and full room).elim
    exact no yes
  obtain ⟨place, entry, reached⟩ := found
  have leads := Disk.resolve_of_find reached
  have start : disk.start day = if day.isAbsolute then [] else here := by rw [Disk.start, from_here]
  have spelled : day.names.reverse ++ disk.start day = day.placeFrom here := by rw [start, Path.placeFrom]
  rw [Path.names_child (isName_fileName number), Disk.start_child (isName_fileName number)] at leads
  obtain ⟨directory, into⟩ := FileTree.resolve_of_append (by simp) leads
  have whole : (day.names ++ [fileName number]).reverse ++ disk.start day =
      fileName number :: day.placeFrom here := by
    rw [List.reverse_concat, List.cons_append, spelled]
  refine ⟨?_, ?_⟩
  · rw [← whole]
    refine FileTree.there_of_resolve no_link (fun name member => ?_) (by simp) ?_ leads
    · rcases List.mem_append.mp member with inside | last
      · exact is.named name inside
      · exact List.mem_singleton.mp last ▸ isName_fileName number
    · rw [whole]
      exact .inr (is.below.trans (List.suffix_cons _ _))
  · rw [← spelled]
    refine FileTree.there_of_resolve no_link is.named is.some_names ?_ into
    rw [spelled]
    exact .inr is.below

end

/-- The files of a day are fewer than what lies in the tree, since the directory of the day does as well. -/
theorem exists_not_full (journal : Journal) (is : IsDayIn here root day) (from_here : disk.here = here)
    (occupied : disk.tree.entries ≠ [])
    (no_link : ∀ location target, root.IsAround location → disk.tree.get? location ≠ some (.link target)) :
    ∃ last < disk.tree.entries.length, ¬ journal.IsFull day disk last := by
  by_contra all
  push Not at all
  have there (number : Nat) (below : number < disk.tree.entries.length) :=
    (all number below).there is from_here no_link
  have named : ((List.range disk.tree.entries.length).map fileName).Nodup :=
    List.nodup_range.map fileName_injective
  have inside : (List.range disk.tree.entries.length).map fileName ⊆
      disk.tree.children (day.placeFrom here) := by
    intro name member
    obtain ⟨number, below, rfl⟩ := List.mem_map.mp member
    exact FileTree.mem_children.mpr (there number (List.mem_range.mp below)).1
  have fewer : (disk.tree.children (day.placeFrom here)).length < disk.tree.entries.length := by
    refine List.length_filterMap_lt_length_iff_exists.mpr ?_
    have held := (there 0 (List.length_pos_of_ne_nil occupied)).2
    cases place : day.placeFrom here with
    | nil => exact absurd place (by simp [Path.placeFrom, is.some_names])
    | cons name above =>
      rw [place] at held
      obtain ⟨entry, found⟩ := Option.ne_none_iff_exists'.mp held
      obtain ⟨before, after, split, -⟩ := List.lookup_eq_some_iff.mp found
      refine ⟨(name :: above, entry), by simp [split], ?_⟩
      have shorter : above ≠ name :: above := fun same => by
        have := congrArg List.length same
        simp at this
      simp [shorter]
  have counted := (List.subperm_of_subset named inside).length_le
  rw [List.length_map, List.length_range] at counted
  omega

/-- The file that an event goes to is the same on both disks. -/
theorem target_alike (journal : Journal) (current : Option Path) (is : IsDayIn here root day) :
    RunAlike (AlikeAround here root) (fun path => path.StaysAround here root) (journal.target current day)
      (journal.target current day) := by
  have first : RunAlike (AlikeAround here root) (fun path => path.StaysAround here root)
      (do journal.firstWithRoom day (← get).tree.entries.length 0)
      (do journal.firstWithRoom day (← get).tree.entries.length 0) := by
    intro disk other alike
    have no_link' : ∀ location target, root.IsAround location → other.tree.get? location ≠ some (.link target) :=
      fun location target around => (alike.same location around).1 ▸ alike.no_link location target around
    -- the disks may hold different numbers of entries, but either number is large enough
    obtain ⟨last, below, ends⟩ := exists_not_full journal is alike.here.1 alike.occupied.1 alike.no_link
    obtain ⟨last', below', ends'⟩ := exists_not_full journal is alike.here.2 alike.occupied.2 no_link'
    rw [isFull_iff is alike] at ends'
    rcases Nat.le_total disk.tree.entries.length other.tree.entries.length with fewer | fewer
    · exact firstWithRoom_alike is alike (Nat.zero_le last) (by omega) (by omega) ends
    · exact firstWithRoom_alike is alike (Nat.zero_le last') (by omega) (by omega) ends'
  refine .bind (Disk.makeDirectories_alike is.stays) fun _ _ => ?_
  split
  · next path =>
    refine .ite (fun today => ?_) fun _ => first
    have stays := is.stays_inside (eq_of_beq today)
    exact .bind (hasRoom_alike journal stays) fun room _ => .ite (fun _ => .pure stays) fun _ => first
  · exact first

/-! ### Adding an event -/

theorem onDisk_alike {α : Type} {good : α → Prop} {job : FileJob α}
    (runs : RunAlike (AlikeAround here root) good job job) :
    RunAlike (World.AlikeAround here root) good (Job.onDisk job) (Job.onDisk job) := by
  intro world other alike
  rw [Ends.onDisk_iff]
  refine (runs world.disk other.disk alike.disk).mono fun r after ends => ?_
  rw [Ends.onDisk_iff]
  refine ends.mono fun r' after' ends => ?_
  obtain ⟨rfl, same, holds⟩ := ends
  refine ⟨rfl, ⟨alike.now, alike.journalFile, same⟩, fun value done => ?_⟩
  cases r' with
  | ok other => exact holds value (congrArg _ (Except.ok.inj done))
  | error fault => cases done

/-- Adding an event comes to the same in two worlds if all is alike around the journal's directory. -/
theorem append_alike (journal : Journal) (event : Value) (named : ∀ name ∈ journal.directory.names, IsName name)
    (spelled : journal.directory.placeFrom here = root) :
    RunAlike (World.AlikeAround here root) (fun _ => True) (journal.append event) (journal.append event) := by
  have checked : RunAlike (World.AlikeAround here root) (fun _ => True)
      (Job.ofExcept ((Event.check event).mapError .event))
      (Job.ofExcept ((Event.check event).mapError .event)) := by
    cases Event.check event with
    | ok fields => exact .pure trivial
    | error cause => exact .throw _
  refine .bind checked fun fields _ => .get_bind fun world other alike => ?_
  rw [alike.now, alike.journalFile]
  have is_day : IsDayIn here root (journal.directory.child world.now.dayName) := by
    have is_name := world.now.isName_dayName
    rw [Path.child_name is_name]
    refine ⟨fun name member => ?_, by simp, ?_⟩
    · rcases List.mem_append.mp member with inside | last
      · exact named name inside
      · exact List.mem_singleton.mp last ▸ is_name
    · rw [← spelled, Path.placeFrom, Path.placeFrom, List.reverse_concat, List.cons_append]
      exact List.suffix_cons _ _
  refine .bind (onDisk_alike (target_alike journal _ is_day)) fun path stays => ?_
  refine .bind (.modify fun world other alike => ⟨alike.now, rfl, alike.disk⟩) fun _ _ => ?_
  exact .bind (onDisk_alike (Disk.append_alike stays _)) fun _ _ => .pure trivial

end Journal
end JavaStubs

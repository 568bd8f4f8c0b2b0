import JavaStubs.Proofs.Files.Directories
import JavaStubs.Proofs.Files.Lexical

/-!
Reading files changes nothing, and reads the same as long as the file and the way to it are the same. Where there
are no links, a path leads to where its names do when they are read one after another, and what other files hold
makes no difference.
-/
namespace JavaStubs.Disk

open FileTree (Purpose Found)

variable {disk before after : Disk} {path : Path} {location : Location} {entry : Entry}
  {content : Content} {bytes : ByteArray}

/-- What a path leads to is a file that may be read, or the device that gives nothing. -/
theorem openFile_ends {post : Except FileFault (Location × Content) → Disk → Prop}
    (file : ∀ location content, Path.hasNul path.text = false →
      disk.find .look path = .ok (.entry location (.file content)) →
      disk.grants .read location = true → post (.ok (location, content)) disk)
    (device : ∀ location, Path.hasNul path.text = false →
      disk.find .look path = .ok (.entry location .sink) → post (.ok (location, .raw .empty)) disk)
    (refused : ∀ fault, post (.error fault) disk) : Ends (openFile path) disk post := by
  unfold openFile
  rw [Ends.bind_iff]
  refine seek_ends (fun found free reached => ?_) (fun _ _ => refused _) fun _ => refused _
  rw [onward_ok]
  split
  · exact refused _
  · next location content =>
    rw [Ends.bind_iff, Ends.get_iff, onward_ok]
    split
    · exact refused _
    · next granted => exact file location content free reached (by simpa using granted)
  · exact device _ free reached
  · exact refused _
  · exact refused _

theorem readBytes_ends {post : Except FileFault ByteArray → Disk → Prop}
    (file : ∀ location content, Path.hasNul path.text = false →
      disk.find .look path = .ok (.entry location (.file content)) →
      disk.grants .read location = true → post (.ok content.toBytes) disk)
    (device : ∀ location, Path.hasNul path.text = false →
      disk.find .look path = .ok (.entry location .sink) → post (.ok .empty) disk)
    (refused : ∀ fault, post (.error fault) disk) : Ends (readBytes path) disk post := by
  unfold readBytes readContent
  rw [Ends.bind_iff, Ends.bind_iff]
  exact openFile_ends file device refused

theorem reads_readBytes (path : Path) : Reads (readBytes path) :=
  fun _ => readBytes_ends (fun _ _ _ _ _ => rfl) (fun _ _ _ => rfl) fun _ => rfl

/-- The bytes that reading a file gives. -/
def Holds (disk : Disk) (path : Path) (bytes : ByteArray) : Prop :=
  (readBytes path).run disk = (.ok bytes, disk)

theorem run_openFile_of_file (free : Path.hasNul path.text = false)
    (there : disk.find .look path = .ok (.entry location (.file content)))
    (granted : disk.grants .read location = true) :
    (openFile path).run disk = (.ok (location, content), disk) := by
  have ends : Ends (openFile path) disk fun r after => (r, after) = (.ok (location, content), disk) := by
    unfold openFile
    rw [Ends.bind_iff, seek_of_found free there, onward_ok]
    dsimp only
    rw [Ends.bind_iff, Ends.get_iff, onward_ok, if_neg (by simp [granted])]
    rfl
  exact ends

theorem Holds.of_file (free : Path.hasNul path.text = false)
    (there : disk.find .look path = .ok (.entry location (.file content)))
    (granted : disk.grants .read location = true) : Holds disk path content.toBytes := by
  have ends : Ends (readBytes path) disk fun r after => (r, after) = (.ok content.toBytes, disk) := by
    unfold readBytes readContent
    rw [Ends.bind_iff, Ends.bind_iff, Ends.of_run (run_openFile_of_file free there granted)]
    rfl
  exact ends

theorem Holds.of_device (free : Path.hasNul path.text = false)
    (there : disk.find .look path = .ok (.entry location .sink)) : Holds disk path .empty := by
  have ends : Ends (readBytes path) disk fun r after => (r, after) = (.ok .empty, disk) := by
    unfold readBytes readContent openFile
    rw [Ends.bind_iff, Ends.bind_iff, Ends.bind_iff, seek_of_found free there]
    rfl
  exact ends

/-- Only a file that may be read, or a device, holds anything. -/
theorem Holds.cases (holds : Holds disk path bytes) :
    Path.hasNul path.text = false ∧
      ((∃ location content, disk.find .look path = .ok (.entry location (.file content)) ∧
          disk.grants .read location = true ∧ bytes = content.toBytes) ∨
        ∃ location, disk.find .look path = .ok (.entry location .sink) ∧ bytes = .empty) := by
  have ends : Ends (readBytes path) disk fun r _ => ∀ read, r = .ok read →
      Path.hasNul path.text = false ∧
        ((∃ location content, disk.find .look path = .ok (.entry location (.file content)) ∧
            disk.grants .read location = true ∧ read = content.toBytes) ∨
          ∃ location, disk.find .look path = .ok (.entry location .sink) ∧ read = .empty) := by
    refine readBytes_ends (fun location content free there granted read same => ?_)
      (fun location free there read same => ?_) fun fault => nofun
    · cases same
      exact ⟨free, .inl ⟨location, content, there, granted, rfl⟩⟩
    · cases same
      exact ⟨free, .inr ⟨location, there, rfl⟩⟩
  rw [Ends.of_run holds] at ends
  exact ends bytes rfl

end JavaStubs.Disk

namespace JavaStubs

/-! ## Trees without links -/

open JavaStubs.Path (IsName)

namespace FileTree

variable {tree other : FileTree} {enters : Location → Bool} {purpose : Purpose} {links : Nat}
  {location : Location} {names : List String}

/-- There are no links in a tree. -/
def IsLinkless (tree : FileTree) : Prop :=
  ∀ location target, tree.get? location ≠ some (.link target)

theorem isLinkless_of_entries (all : (tree.entries.all fun (_, entry) => !entry.isLink) = true) :
    tree.IsLinkless := by
  intro location target link
  cases location with
  | nil => cases link
  | cons name directory =>
    obtain ⟨before, after, split, -⟩ := List.lookup_eq_some_iff.mp link
    have listed := List.all_eq_true.mp all (name :: directory, .link target) (by simp [split])
    cases listed

/-- Where there are no links, names lead to where they do when they are read one after another. -/
theorem IsLinkless.names_of_resolve (linkless : tree.IsLinkless) {found : Found}
    (clean : ∀ name ∈ names, name ≠ ".." → IsName name) (start : ".." ∉ location)
    (leads : tree.resolve enters purpose links location names = .ok found) :
    found.location.reverse = Path.normalNames true location names := by
  -- only `..` leads elsewhere than to what is below, and to the parent, since no link was followed
  fun_induction FileTree.resolve tree enters purpose links location names with
  | case1 links location =>
    cases leads
    rw [Found.location, Path.normalNames]
  | case2 links location names ih => exact absurd rfl (clean "" List.mem_cons_self (by decide)).nonempty
  | case4 links location names _ _ ih => exact absurd rfl (clean "." List.mem_cons_self (by decide)).not_dot
  | case5 links location names _ _ _ ih =>
    rw [ih (fun name member => clean name (List.mem_cons_of_mem _ member))
      (fun member => start (List.mem_of_mem_tail member)) leads]
    cases location with
    | nil => rfl
    | cons last above =>
      have plain : last ≠ ".." := fun same => start (same ▸ List.mem_cons_self)
      rw [Path.normalNames_up plain, List.tail_cons]
  | case8 links location name names _ _ _ not_dots _ _ _ last =>
    cases leads
    rw [Found.location, Path.normalNames_cons not_dots, List.isEmpty_iff.mp last, Path.normalNames]
  | case10 links location name names _ _ _ not_dots _ _ _ ih =>
    rw [Path.normalNames_cons not_dots]
    refine ih (fun other member => clean other (List.mem_cons_of_mem _ member)) (fun member => ?_) leads
    rcases List.mem_cons.mp member with same | member
    · exact not_dots same.symm
    · exact start member
  | case11 links location name names _ _ _ _ _ _ target there => exact absurd there (linkless _ target)
  | case13 location name names _ _ _ _ _ _ target there => exact absurd there (linkless _ target)
  | case14 links location name names _ _ _ not_dots _ _ entry _ _ _ last =>
    cases leads
    rw [Found.location, Path.normalNames_cons not_dots, List.isEmpty_iff.mp last, Path.normalNames]
  | _ => cases leads

/-- In two trees lies the same everywhere, but that files elsewhere than near some locations may hold something
else. -/
def AgreesOn (near : Location → Prop) (tree other : FileTree) : Prop :=
  ∀ location, other.get? location = tree.get? location ∨
    ¬ near location ∧ (∃ content, tree.get? location = some (.file content)) ∧
      ∃ content, other.get? location = some (.file content)

theorem AgreesOn.get?_eq {near : Location → Prop} (agrees : AgreesOn near tree other)
    (no_file : ∀ content, tree.get? location ≠ some (.file content)) :
    other.get? location = tree.get? location := by
  rcases agrees location with same | ⟨-, ⟨content, file⟩, -⟩
  · exact same
  · exact absurd file (no_file content)

/-- A file is no leaf less for what it holds. -/
theorem AgreesOn.exists_leaf {near : Location → Prop} (agrees : AgreesOn near tree other) {entry : Entry}
    (held : tree.get? location = some entry) (leaf : IsLeaf entry) :
    ∃ there, other.get? location = some there ∧ IsLeaf there := by
  rcases agrees location with same | ⟨-, -, content, file⟩
  · exact ⟨entry, same.trans held, leaf⟩
  · exact ⟨_, file, nofun, nofun⟩

/-- What files hold that names do not lead to makes no difference to where they lead. -/
theorem AgreesOn.resolve_eq {near : Location → Prop} (agrees : AgreesOn near tree other)
    (ends : ∀ found, tree.resolve enters purpose links location names = .ok found → near found.location) :
    other.resolve enters purpose links location names = tree.resolve enters purpose links location names := by
  -- on the way only the kind of an entry counts, which is the same in both; its content counts at the end alone
  fun_induction FileTree.resolve tree enters purpose links location names with
  | case1 links location => rw [resolve]
  | case2 links location names ih => exact resolve_blank.trans (ih ends)
  | case4 links location names entered _ ih => exact (resolve_dot entered).trans (ih ends)
  | case5 links location names entered _ _ ih => exact (resolve_dots entered).trans (ih ends)
  | case3 links location name names nonempty entered => rw [resolve, if_neg nonempty, if_pos entered]
  | case6 links location name names nonempty entered not_dot not_dots on =>
    rw [resolve, if_neg nonempty, if_neg entered, if_neg not_dot, if_neg not_dots, if_pos on]
  | case7 links location name names nonempty entered not_dot not_dots on long =>
    rw [resolve, if_neg nonempty, if_neg entered, if_neg not_dot, if_neg not_dots, if_neg on, if_pos long]
  | case8 links location name names nonempty entered not_dot not_dots on short vacant last =>
    have same := (agrees.get?_eq (by simp [vacant])).trans vacant
    rw [resolve, if_neg nonempty, if_neg entered, if_neg not_dot, if_neg not_dots, if_neg on, if_neg short, same]
    simp only [if_pos last]
  | case9 links location name names nonempty entered not_dot not_dots on short vacant last =>
    have same := (agrees.get?_eq (by simp [vacant])).trans vacant
    rw [resolve, if_neg nonempty, if_neg entered, if_neg not_dot, if_neg not_dots, if_neg on, if_neg short, same]
    simp only [if_neg last]
  | case10 links location name names nonempty entered not_dot not_dots on short held ih =>
    have same := (agrees.get?_eq (by simp [held])).trans held
    exact (resolve_directory nonempty entered not_dot not_dots on short same).trans (ih ends)
  | case11 links location name names nonempty entered not_dot not_dots on short target held last =>
    have same := (agrees.get?_eq (by simp [held])).trans held
    rw [resolve, if_neg nonempty, if_neg entered, if_neg not_dot, if_neg not_dots, if_neg on, if_neg short, same]
    simp only [if_pos last]
  | case12 location name names nonempty entered not_dot not_dots on short target held followed =>
    have same := (agrees.get?_eq (by simp [held])).trans held
    rw [resolve, if_neg nonempty, if_neg entered, if_neg not_dot, if_neg not_dots, if_neg on, if_neg short, same]
    simp only [if_neg followed]
  | case13 location name names nonempty entered not_dot not_dots on short target held followed links ih =>
    have same := (agrees.get?_eq (by simp [held])).trans held
    exact (resolve_link nonempty entered not_dot not_dots on short same followed).trans (ih ends)
  | case14 links location name names nonempty entered not_dot not_dots on short entry no_directory no_link held
      last =>
    have same : other.get? (name :: location) = some entry :=
      ((agrees _).resolve_right fun away => away.1 (ends _ rfl)).trans held
    have free : ∀ target, other.get? (name :: location) ≠ some (.link target) := fun target also =>
      no_link target (Option.some.inj (same.symm.trans also))
    rw [resolve_end nonempty entered not_dot not_dots on short last free, FileTree.found, same]
  | case15 links location name names nonempty entered not_dot not_dots on short entry no_directory no_link held
      last =>
    obtain ⟨there, also, leaf⟩ := agrees.exists_leaf held ⟨no_directory, no_link⟩
    rw [resolve, if_neg nonempty, if_neg entered, if_neg not_dot, if_neg not_dots, if_neg on, if_neg short, also]
    cases there with
    | directory => exact absurd rfl leaf.1
    | link target => exact absurd rfl (leaf.2 target)
    | _ => simp only [if_neg last]

end FileTree

namespace Disk

variable {near : Location → Prop} {disk other : Disk} {path : Path}

/-- Where there are no links, a path leads to where it does when it is read without regard to them. -/
theorem path_of_find (linkless : disk.tree.IsLinkless) (absolute : path.isAbsolute = true) (clean : path.IsClean)
    {purpose : FileTree.Purpose} {found : FileTree.Found} (reached : disk.find purpose path = .ok found) :
    found.location.path = ⟨.root, path.normal.names⟩ := by
  have start : disk.start path = [] := if_pos absolute
  have leads := resolve_of_find reached
  rw [start] at leads
  rw [Location.path, linkless.names_of_resolve clean List.not_mem_nil leads, Path.normal, absolute]

theorem Grown.isLinkless {before after : Disk} (grown : Grown path before after)
    (linkless : before.tree.IsLinkless) : after.tree.IsLinkless := fun location target link =>
  linkless location target (grown.was_there nofun link)

/-- In two disks lies the same everywhere, with the same rights, but that files elsewhere than near some locations
may hold something else. -/
structure AgreesOn (near : Location → Prop) (disk other : Disk) : Prop where
  tree : FileTree.AgreesOn near disk.tree other.tree
  modes : other.modes = disk.modes

/-- What agrees near some locations agrees near fewer. -/
theorem AgreesOn.mono {nearer : Location → Prop} (agrees : AgreesOn near disk other)
    (fewer : ∀ location, nearer location → near location) : AgreesOn nearer disk other :=
  ⟨fun location => (agrees.tree location).imp_right fun ⟨away, files⟩ => ⟨fun there => away (fewer _ there), files⟩,
    agrees.modes⟩

theorem AgreesOn.find_eq (agrees : AgreesOn near disk other) (absolute : path.isAbsolute = true)
    (ends : ∀ found, disk.find .look path = .ok found → near found.location) :
    other.find .look path = disk.find .look path := by
  have enters : other.enters = disk.enters := by
    funext location
    rw [Disk.enters, Disk.enters, agrees.modes]
  have start (disk : Disk) : disk.start path = [] := if_pos absolute
  rw [Disk.find_eq (by decide), Disk.find_eq (by decide), enters, start, start]
  rw [Disk.find_eq (by decide), start] at ends
  split
  · rfl
  · next short =>
    rw [if_neg short] at ends
    exact agrees.tree.resolve_eq ends

/-- Where a path leads, or the fault of following it. -/
theorem run_seek (purpose : FileTree.Purpose) (path : Path) (disk : Disk) : (seek purpose path).run disk =
    (if Path.hasNul path.text then .error .nulInName
      else (disk.find purpose path).mapError fun cause => .os ⟨cause, some path.text⟩, disk) := by
  have ends : Ends (seek purpose path) disk fun r after => (r, after) =
      (if Path.hasNul path.text then .error .nulInName
        else (disk.find purpose path).mapError fun cause => .os ⟨cause, some path.text⟩, disk) := by
    unfold seek checkName
    split
    · rw [Ends.bind_iff]
      rfl
    · rw [Ends.bind_iff, Ends.pure_iff, onward_ok, Ends.bind_iff, Ends.get_iff, onward_ok]
      cases disk.find purpose path with
      | ok found => rfl
      | error cause => rfl
  exact ends

/-- Files that a path does not lead to make no difference to what is read there. -/
theorem AgreesOn.readBytes_eq (agrees : AgreesOn near disk other) (absolute : path.isAbsolute = true)
    (ends : ∀ found, disk.find .look path = .ok found → near found.location) :
    ((readBytes path).run other).1 = ((readBytes path).run disk).1 := by
  have granted {location : Location} (there : near location) :
      other.grants .read location = disk.grants .read location := by
    have same := (agrees.tree location).resolve_right fun away => away.1 there
    rw [grants, grants, modeAt, modeAt, same, agrees.modes]
  have both : Ends (readBytes path) other fun r _ => Ends (readBytes path) disk fun r' _ => r = r' := by
    unfold readBytes readContent openFile
    rw [Ends.bind_iff, Ends.bind_iff, Ends.bind_iff, Ends.of_run (run_seek ..), agrees.find_eq absolute ends]
    simp only [Ends.bind_iff, Ends.of_run (run_seek ..)]
    split
    · rfl
    · cases reached : disk.find .look path with
      | error cause => rfl
      | ok found =>
        cases found with
        | vacant location => rfl
        | entry location entry =>
          cases entry with
          | file content =>
            have same : other.grants .read location = disk.grants .read location := granted (ends _ reached)
            simp only [mapError_ok, onward_ok, Ends.bind_iff, Ends.get_iff]
            rw [same]
            split
            · rfl
            · rfl
          | _ => rfl
  exact both

end Disk
end JavaStubs

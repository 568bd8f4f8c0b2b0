import JavaStubs.Proofs.Journal.Shelf

/-!
What adding an event to a journal changes in its directory: the day of the event is opened if it was
not, and in the first of its files with room, or in the file that the journal wrote to last, there is one
more line.
-/
namespace JavaStubs.Journal

open Disk (Fits Reaches)
open JavaStubs.Path (IsName hasNul)

-- a goal about a job on given names would be evaluated when a rule is applied to it
attribute [local irreducible] Ends

variable {journal : Journal} {disk : Disk} {root : Location} {shelf : Shelf} {day : String} {number : Nat}

/-- The path of a file of a day. -/
def pathOf (base : Path) (day : String) (number : Nat) : Path := (base.child day).child (fileName number)

/-- A number is that of a file of a day or the next one, and the files before it are full. -/
structure Aims (journal : Journal) (shelf : Shelf) (day : String) (number : Nat) : Prop where
  within : number ≤ (shelf.files day).length
  full : ∀ earlier < number, journal.maxBytes ≤ shelf.size day earlier

/-- A file is not there, or is not full. -/
def HasSpace (journal : Journal) (shelf : Shelf) (day : String) (number : Nat) : Prop :=
  number < (shelf.files day).length → (shelf.size day number : Int) < journal.maxBytes

/-- The file that a journal wrote to last, if any, is one of a day, and those before it are full. -/
def Remembers (journal : Journal) (shelf : Shelf) (current : Option Path) : Prop :=
  ∀ path, current = some path → ∃ day number, path = pathOf journal.directory day number ∧ IsName day ∧
    (shelf day).isSome ∧ Aims journal shelf day number

theorem Aims.remembers (aims : Aims journal shelf day number) (named : IsName day)
    (there : (shelf day).isSome) : Remembers journal shelf (some (pathOf journal.directory day number)) :=
  fun _ same => ⟨day, number, (Option.some.inj same).symm, named, there, aims⟩

theorem Aims.grow {after : Shelf} (aims : Aims journal shelf day number) (grows : shelf.Grows after) :
    Aims journal after day number := by
  refine ⟨Nat.le_trans aims.within (grows.files day), fun earlier below => ?_⟩
  have larger := grows.size day earlier
  have full := aims.full earlier below
  omega

theorem Remembers.grow {after : Shelf} {current : Option Path}
    (remembers : Remembers journal shelf current) (grows : shelf.Grows after) :
    Remembers journal after current := by
  intro path same
  obtain ⟨day, number, here, named, there, aims⟩ := remembers path same
  exact ⟨day, number, here, named, grows.days day there, aims.grow grows⟩

/-- By way of its path, the files of a day and the next one behind them can be looked up. -/
def AdmitsFiles (base : Path) (root : Location) (disk : Disk) (shelf : Shelf) (day : String) : Prop :=
  ∀ number ≤ (shelf.files day).length, disk.Admits (base.child day) (day :: root) (fileName number)

/-! ## The file that an event goes to -/

theorem hasRoom_ends {post : Except FileFault Bool → Disk → Prop} (is : IsShelf disk.tree root shelf)
    (reaches : disk.Reaches (journal.directory.child day) (day :: root))
    (space : HasSpace journal shelf day number → post (.ok true) disk)
    (full : number < (shelf.files day).length → journal.maxBytes ≤ shelf.size day number →
      post (.ok false) disk)
    (refused : ¬ disk.Admits (journal.directory.child day) (day :: root) (fileName number) →
      ∀ fault, post (.error fault) disk) :
    Ends (journal.hasRoom (pathOf journal.directory day number)) disk post := by
  rw [pathOf, hasRoom, Ends.bind_iff]
  refine Disk.probe_child_ends reaches (isName_fileName number) (hasNul_fileName number)
    is.file_no_link (fun entry there => ?_) (fun vacant => ?_) fun barred refusal => refused barred _
  · obtain ⟨notes, found, rfl⟩ := is.file_raw there
    have size : shelf.size day number = (notesBytes notes).size := by
      rw [Shelf.size, found, Option.getD_some]
    rw [onward_ok]
    dsimp only
    rw [Ends.pure_iff, Disk.size, Content.toBytes]
    by_cases small : ((notesBytes notes).size : Int) < journal.maxBytes
    · rw [decide_eq_true small]
      exact space fun _ => by rwa [size]
    · rw [decide_eq_false small]
      refine full (List.getElem?_eq_some_iff.mp found).1 ?_
      rw [size]
      omega
  · rw [onward_ok, Ends.pure_iff]
    refine space fun below => ?_
    rw [is.file day number] at vacant
    rw [List.getElem?_eq_getElem below] at vacant
    cases vacant

/-- The first file with room is found. As many files as there are entries in the tree are not there, so
the search ends before the count of files that it may look at does. -/
theorem firstWithRoom_ends {post : Except FileFault Path → Disk → Prop}
    (is : IsShelf disk.tree root shelf)
    (reaches : disk.Reaches (journal.directory.child day) (day :: root))
    (found : ∀ number, Aims journal shelf day number → HasSpace journal shelf day number →
      post (.ok (pathOf journal.directory day number)) disk)
    (refused : ¬ AdmitsFiles journal.directory root disk shelf day → ∀ fault, post (.error fault) disk)
    {files : Nat} (aims : Aims journal shelf day number)
    (enough : (shelf.files day).length ≤ number + files) :
    Ends (journal.firstWithRoom (journal.directory.child day) files number) disk post := by
  induction files generalizing number with
  | zero =>
    rw [firstWithRoom, Ends.pure_iff]
    exact found number aims fun below => absurd below (by omega)
  | succ files ih =>
    unfold firstWithRoom
    dsimp only
    rw [Ends.bind_iff]
    refine hasRoom_ends is reaches (fun space => ?_) (fun below full => ?_)
      fun barred => refused fun admits => barred (admits number aims.within)
    · rw [onward_ok, if_pos rfl, Ends.pure_iff]
      exact found number aims space
    rw [onward_ok, if_neg (by simp)]
    refine ih ⟨below, fun earlier before => ?_⟩ (by omega)
    by_cases last : earlier = number
    · rwa [last]
    · exact aims.full earlier (by omega)

/-- A day is opened, or it was before. -/
def Opens (base : Path) (root : Location) (day : String) (before after : Disk) : Prop :=
  Fits base day ∧ ((before.tree.get? (day :: root) = some .directory ∧ after = before) ∨
    (before.tree.get? (day :: root) = none ∧ after = before.withNew (day :: root) .directory 0o777))

/-- The directory of a day is opened, and then something is done, unless that is refused. -/
theorem opening_ends {α : Type} {next : Unit → FileJob α} {post : Except FileFault α → Disk → Prop}
    {base : Path} (is : IsShelf disk.tree root shelf) (reaches : disk.Reaches base root)
    (named : IsName day) (free : hasNul day = false)
    (opened : ∀ {after}, Opens base root day disk after → IsShelf after.tree root (shelf.opened day) →
      after.Reaches (base.child day) (day :: root) → Ends (next ()) after post)
    (refused : ¬ (disk.Admits base root day ∧ disk.MayMakeDirectory (day :: root)) →
      ∀ fault, post (.error fault) disk) :
    Ends (Disk.makeDirectories (base.child day)) disk (Onward next post) := by
  refine Disk.makeDirectories_child_ends reaches is.isTree named free is.day_no_link
    (fun there reached _ fits => ?_) (fun vacant reached _ fits => ?_) refused
  · have known := is.day_eq_some there
    rw [onward_ok]
    exact opened ⟨fits, .inl ⟨there, rfl⟩⟩ (by rwa [Shelf.opened_of_some known]) reached
  · rw [onward_ok]
    exact opened ⟨fits, .inr ⟨vacant, rfl⟩⟩ (is.opened named free vacant) reached

theorem target_ends {post : Except FileFault Path → Disk → Prop} {current : Option Path}
    (is : IsShelf disk.tree root shelf) (reaches : disk.Reaches journal.directory root)
    (remembers : Remembers journal shelf current) (named : IsName day) (free : hasNul day = false)
    (found : ∀ number after, Opens journal.directory root day disk after →
      IsShelf after.tree root (shelf.opened day) →
      after.Reaches (journal.directory.child day) (day :: root) → Aims journal shelf day number →
      HasSpace journal shelf day number → post (.ok (pathOf journal.directory day number)) after)
    (opened : ∀ fault after, Opens journal.directory root day disk after →
      IsShelf after.tree root (shelf.opened day) →
      ¬ AdmitsFiles journal.directory root after shelf day → post (.error fault) after)
    (refused : ¬ (disk.Admits journal.directory root day ∧ disk.MayMakeDirectory (day :: root)) →
      ∀ fault, post (.error fault) disk) :
    Ends (journal.target current (journal.directory.child day)) disk post := by
  -- what follows the making of the directory of the day, which may have been there before
  have search {after : Disk} (opens : Opens journal.directory root day disk after)
      (is : IsShelf after.tree root (shelf.opened day))
      (reaches : after.Reaches (journal.directory.child day) (day :: root)) :
      Ends (journal.firstWithRoom (journal.directory.child day) after.tree.entries.length 0) after post := by
    refine firstWithRoom_ends is reaches (fun number aims space => ?_)
      (fun barred fault => opened fault after opens is ?_)
      ⟨Nat.zero_le _, fun _ below => absurd below (by omega)⟩ ?_
    · refine found number after opens is reaches ⟨?_, fun earlier below => ?_⟩ ?_
      · simpa using aims.within
      · simpa [Shelf.size] using aims.full earlier below
      · simpa [HasSpace, Shelf.size] using space
    · simpa [AdmitsFiles] using barred
    · rw [Nat.zero_add]
      exact is.length_files_le day
  have searched {after : Disk} (opens : Opens journal.directory root day disk after)
      (is : IsShelf after.tree root (shelf.opened day))
      (reaches : after.Reaches (journal.directory.child day) (day :: root)) : Ends (do
        journal.firstWithRoom (journal.directory.child day) (← get).tree.entries.length 0) after post := by
    rw [Ends.bind_iff, Ends.get_iff, onward_ok]
    exact search opens is reaches
  cases current with
  | none =>
    unfold target
    rw [Ends.bind_iff]
    exact opening_ends is reaches named free searched refused
  | some path =>
    obtain ⟨other, number, here, other_named, -, aims⟩ := remembers path rfl
    unfold target
    rw [Ends.bind_iff]
    refine opening_ends is reaches named free (fun opens is reaches => ?_) refused
    dsimp only
    rw [here]
    split
    · next today =>
      have same : other = day := by
        rw [pathOf, Path.parent_child (isName_fileName number), beq_iff_eq,
          Path.child_name other_named, Path.child_name named] at today
        simpa using (Path.mk.inj today).2
      subst same
      rw [Ends.bind_iff]
      refine hasRoom_ends is reaches (fun space => ?_) (fun _ _ => ?_)
        fun barred fault => opened fault _ opens is fun admits => barred (admits number aims.within)
      · rw [onward_ok, if_pos rfl, Ends.pure_iff]
        refine found number _ opens is reaches aims ?_
        simpa [HasSpace, Shelf.size] using space
      · rw [onward_ok, if_neg (by simp)]
        exact searched opens is reaches
    · exact searched opens is reaches

/-! ## Adding an event -/

/-- What adding an event to a journal does to the disk and to the shelf on it: nothing, or a day is opened
and nothing more, or a note is added in a day that is opened if it was not. -/
inductive Change (journal : Journal) (root : Location) (now : Instant) (event : Value) (before : Disk)
    (shelf : Shelf) : Except Fault Path → Disk → Shelf → Prop
  | nothing (fault : Fault) : Change journal root now event before shelf (.error fault) before shelf
  | opened {fault : Fault} {after : Disk} (opens : Opens journal.directory root now.dayName before after) :
    Change journal root now event before shelf (.error fault) after (shelf.opened now.dayName)
  | made {fields : Fields} {middle : Disk} {number : Nat} (event_checked : Event.check event = .ok fields)
    (opens : Opens journal.directory root now.dayName before middle)
    (fits : Fits (journal.directory.child now.dayName) (fileName number))
    (aims : Aims journal shelf now.dayName number)
    (last : number = (shelf.files now.dayName).length)
    (vacant : middle.tree.get? (fileName number :: now.dayName :: root) = none) :
    Change journal root now event before shelf (.ok (pathOf journal.directory now.dayName number))
      (middle.withNew (fileName number :: now.dayName :: root)
        (.file (.raw (notesBytes [⟨now, fields⟩]))) 0o666)
      (shelf.added now.dayName number ⟨now, fields⟩)
  | added {fields : Fields} {middle : Disk} {number : Nat} {notes : List Note}
    (event_checked : Event.check event = .ok fields)
    (opens : Opens journal.directory root now.dayName before middle)
    (fits : Fits (journal.directory.child now.dayName) (fileName number))
    (aims : Aims journal shelf now.dayName number)
    (file : (shelf.files now.dayName)[number]? = some notes)
    (space : (shelf.size now.dayName number : Int) < journal.maxBytes)
    (there : middle.tree.get? (fileName number :: now.dayName :: root) =
      some (.file (.raw (notesBytes notes)))) :
    Change journal root now event before shelf (.ok (pathOf journal.directory now.dayName number))
      (middle.withEntry (fileName number :: now.dayName :: root)
        (.file (.raw (notesBytes (notes ++ [⟨now, fields⟩])))))
      (shelf.added now.dayName number ⟨now, fields⟩)

theorem Change.grows {now : Instant} {event : Value} {before after : Disk} {shelf' : Shelf}
    {r : Except Fault Path} (change : Change journal root now event before shelf r after shelf') :
    shelf.Grows shelf' := by
  cases change with
  | nothing fault => exact .refl shelf
  | opened opens => exact Shelf.grows_opened
  | made _ _ _ aims => exact Shelf.grows_added aims.within
  | added _ _ _ aims => exact Shelf.grows_added aims.within

theorem Opens.keepsRoutes {base : Path} {before after : Disk} (opens : Opens base root day before after) :
    Disk.KeepsRoutes before after ∧ after.here = before.here := by
  obtain ⟨-, ⟨-, rfl⟩ | ⟨vacant, rfl⟩⟩ := opens
  · exact ⟨fun location _ => .refl _ location, rfl⟩
  · exact ⟨Disk.withNew_keepsRoutes vacant, rfl⟩

theorem Opens.there {base : Path} {before after : Disk} (opens : Opens base root day before after) :
    after.tree.get? (day :: root) = some .directory := by
  obtain ⟨-, ⟨there, rfl⟩ | ⟨-, rfl⟩⟩ := opens
  · exact there
  · exact Disk.get?_withNew_self

/-- A note is added at the end of a file with space, or in a new one, once its day has been opened. -/
theorem add_note_ends {now : Instant} {event : Value} {fields : Fields} {before middle : Disk}
    {post : Except FileFault Unit → Disk → Prop} (event_checked : Event.check event = .ok fields)
    (opens : Opens journal.directory root now.dayName before middle)
    (opened : IsShelf middle.tree root (shelf.opened now.dayName))
    (reaches : middle.Reaches (journal.directory.child now.dayName) (now.dayName :: root))
    (aims : Aims journal shelf now.dayName number) (space : HasSpace journal shelf now.dayName number)
    (added : ∀ after, IsShelf after.tree root (shelf.added now.dayName number ⟨now, fields⟩) →
      Disk.KeepsRoutes middle after → after.here = middle.here →
      Change journal root now event before shelf (.ok (pathOf journal.directory now.dayName number)) after
        (shelf.added now.dayName number ⟨now, fields⟩) → post (.ok ()) after)
    (refused : ¬ (middle.Admits (journal.directory.child now.dayName) (now.dayName :: root)
        (fileName number) ∧ middle.MayWrite (fileName number :: now.dayName :: root)) →
      ∀ fault, post (.error fault) middle) :
    Ends (Disk.append (pathOf journal.directory now.dayName number) (Event.line now fields).toUTF8)
      middle post := by
  have is := opened.added opens.there (by simpa using aims.within) ⟨now, fields⟩
  rw [Shelf.added_opened, Shelf.files_opened] at is
  have more_bytes (notes : List Note) : notesBytes notes ++ (Event.line now fields).toUTF8 =
      notesBytes (notes ++ [⟨now, fields⟩]) := by
    rw [notesBytes_concat, Note.line]
  refine Disk.append_child_ends reaches (isName_fileName number) (hasNul_fileName number)
    (fun entry held => ?_) (fun vacant fits => ?_) (fun content held fits => ?_) refused
  · obtain ⟨notes, -, rfl⟩ := opened.file_raw held
    exact ⟨_, rfl⟩
  · have none_there : (shelf.files now.dayName)[number]? = none := by
      have place := opened.file now.dayName number
      rw [vacant, Shelf.files_opened] at place
      simpa using place.symm
    have last : number = (shelf.files now.dayName).length :=
      Nat.le_antisymm aims.within (List.getElem?_eq_none_iff.mp none_there)
    rw [none_there] at is
    rw [← notesBytes_nil, more_bytes]
    exact added _ is (Disk.withNew_keepsRoutes vacant) rfl
      (.made event_checked opens fits aims last vacant)
  · obtain ⟨notes, file, content_eq⟩ := opened.file_raw held
    obtain rfl : content = .raw (notesBytes notes) := by simpa using content_eq
    rw [Shelf.files_opened] at file
    have small : (shelf.size now.dayName number : Int) < journal.maxBytes :=
      space (List.getElem?_eq_some_iff.mp file).1
    rw [file] at is
    rw [Content.toBytes, more_bytes]
    exact added _ is (Disk.withEntry_keepsRoutes held) rfl
      (.added event_checked opens fits aims file small held)

/-- Adding an event leaves a shelf, and the journal remembers a file on it. -/
theorem append_ends {world : World} {event : Value} (is : IsShelf world.disk.tree root shelf)
    (reaches : world.disk.Reaches journal.directory root)
    (remembers : Remembers journal shelf world.journalFile) :
    Ends (journal.append event) world fun r after => ∃ shelf', IsShelf after.disk.tree root shelf' ∧
      after.disk.Reaches journal.directory root ∧ Remembers journal shelf' after.journalFile ∧
      Change journal root world.now event world.disk shelf r after.disk shelf' := by
  have named := world.now.isName_dayName
  have free := world.now.hasNul_dayName
  have into {middle : Disk} (opens : Opens journal.directory root world.now.dayName world.disk middle) :
      middle.Reaches journal.directory root :=
    reaches.kept is.isTree opens.keepsRoutes.1 opens.keepsRoutes.2
  unfold append
  rw [Ends.bind_iff, Ends.ofExcept_iff]
  cases checked : Event.check event with
  | error fault => exact ⟨shelf, is, reaches, remembers, .nothing _⟩
  | ok fields =>
    rw [mapError_ok, onward_ok, Ends.bind_iff, Ends.get_iff, onward_ok]
    dsimp only
    rw [Ends.bind_iff, Ends.onDisk_iff]
    refine target_ends is reaches remembers named free
      (fun number middle opens opened reached aims space => ?_)
      (fun fault middle opens opened _ =>
        ⟨_, opened, into opens, remembers.grow Shelf.grows_opened, .opened opens⟩)
      (fun _ fault => ⟨shelf, is, reaches, remembers, .nothing _⟩)
    rw [mapError_ok, onward_ok, Ends.bind_iff, Ends.modify_iff, onward_ok, Ends.bind_iff, Ends.onDisk_iff]
    refine add_note_ends checked opens opened reached aims space (fun after added kept here change => ?_)
      fun _ fault => ?_
    · rw [mapError_ok, onward_ok, Ends.pure_iff]
      exact ⟨_, added, (into opens).kept opened.isTree kept here,
        (aims.grow (Shelf.grows_added aims.within)).remembers named (by simp [Shelf.added]), change⟩
    · exact ⟨_, opened, into opens,
        (aims.grow Shelf.grows_opened).remembers named (by simp [Shelf.opened]), .opened opens⟩

/-! ## Faults -/

/-- Adding a value to a journal fails if it is no event, and else only with a file. -/
theorem append_faults (journal : Journal) (event : Value) (world : World) :
    Ends (journal.append event) world fun r _ => ∀ fault, r = .error fault →
      (∃ cause, Event.check event = .error cause ∧ fault = .event cause) ∨
        ∃ refused, fault = .file refused := by
  unfold append
  rw [Ends.bind_iff, Ends.ofExcept_iff]
  cases checked : Event.check event with
  | error cause =>
    intro fault raised
    cases raised
    exact .inl ⟨cause, rfl, rfl⟩
  | ok fields =>
    rw [mapError_ok, onward_ok, Ends.bind_iff, Ends.get_iff, onward_ok]
    have filed (day : Path) (bytes : ByteArray) : Yields (fun _ => True) (fun _ => True)
        (fun fault => ∃ refused, fault = .file refused) (do
          let path ← Job.onDisk (journal.target world.journalFile day)
          modify fun world => { world with journalFile := some path }
          Job.onDisk (Disk.append path bytes)
          return path) := by
      refine Yields.bind (Yields.onDisk _) fun path _ => ?_
      refine Yields.bind (Yields.modify _) fun _ _ => ?_
      exact Yields.bind (Yields.onDisk _) fun _ _ => Yields.pure trivial
    refine (filed _ _ world trivial).mono fun r _ ends fault raised => .inr ?_
    subst raised
    exact ends.2

/-- Adding an event does not end in the failure of a stage. -/
theorem append_unstaged (journal : Journal) (event : Value) (world : World) :
    Ends (journal.append event) world fun r _ => ∀ failure, r ≠ .error (.stage failure) := by
  refine (journal.append_faults event world).mono fun r _ faults failure raised => ?_
  rcases faults _ raised with ⟨cause, -, other⟩ | ⟨refused, other⟩
  · cases other
  · cases other

end JavaStubs.Journal

import JavaStubs.Archive.Writer
import JavaStubs.Proofs.Files.Below
import JavaStubs.Proofs.Files.Reading
import JavaStubs.Proofs.Files.Writing

/-!
Histories of archives. Calls are made on the writer of an archive one after another, and each of them may
fail. Whatever they are, the archive holds the entries that were added, in the order of the calls, and once it is
closed it stays as it is.
-/
namespace JavaStubs.ArchiveWriter

open Disk (Holds IsWritable SameBut StartsAlike)
open FileTree (IsTree IsLeaf Found)

/-! ## Calls -/

/-- A call on the writer of an archive. -/
inductive Call where
  | add (name : String) (data : ByteArray)
  | addFile (name : String) (source : Path)
  | close

/-- What a call does. -/
def Call.job (writer : ArchiveWriter) : Call → Job ArchiveWriter
  | .add name data => writer.add name data
  | .addFile name source => writer.addFile name source
  | .close => writer.close

/-- A call that was made: the worlds before and after it, and the fault that it ended in, if any. -/
structure Step where
  call : Call
  before : World
  result : Except Fault Unit
  after : World

/-- A call as it has ended, and the writer after it, which is as it was if the call has failed. -/
def concluded (writer : ArchiveWriter) (call : Call) (before : World) :
    Except Fault ArchiveWriter × World → Step × ArchiveWriter
  | (.ok next, after) => (⟨call, before, .ok (), after⟩, next)
  | (.error fault, after) => (⟨call, before, .error fault, after⟩, writer)

/-- A call is made on a writer. -/
def step (writer : ArchiveWriter) (world : World) (call : Call) : Step × ArchiveWriter :=
  writer.concluded call world ((call.job writer).run world)

/-- Calls are made on a writer one after another. -/
def steps (writer : ArchiveWriter) (world : World) : List Call → List Step
  | [] => []
  | call :: calls => (writer.step world call).1 ::
    (writer.step world call).2.steps (writer.step world call).1.after calls

/-- The world after steps. -/
def left (world : World) (history : List Step) : World := (history.getLast?.map Step.after).getD world

namespace Step

/-- The entry that a call has added: of the given bytes, or of those that the source held. -/
def added : Step → List ArchiveEntry
  | ⟨.add name data, _, .ok _, _⟩ => [.packed name data]
  | ⟨.addFile name source, before, .ok _, _⟩ =>
    (((Disk.readBytes source).run before.disk).1.toOption.map (.packed name)).toList
  | _ => []

/-- How calls are answered by an archive that may be closed. An entry is added, unless its name is too long; when
the archive is closed, nothing changes any more, and additions are refused. A source that cannot be read is the
fault of its call, and nothing changes either. -/
inductive Answers (closed : Prop) : Step → Prop where
  | added {name : String} {data : ByteArray} {before after : World} (still : ¬ closed)
      (fits : (ArchiveEntry.packed name data).name.utf8ByteSize ≤ nameLimit) :
      Answers closed ⟨.add name data, before, .ok (), after⟩
  | tooLong {name : String} {data : ByteArray} {world : World} (still : ¬ closed)
      (long : nameLimit < (ArchiveEntry.packed name data).name.utf8ByteSize) :
      Answers closed ⟨.add name data, world, .error .entryNameSize, world⟩
  | refused {name : String} {data : ByteArray} {world : World} (shut : closed) :
      Answers closed ⟨.add name data, world, .error .archiveClosed, world⟩
  | unread {name : String} {source : Path} {world : World} {fault : FileFault}
      (unread : (Disk.readBytes source).run world.disk = (.error fault, world.disk)) :
      Answers closed ⟨.addFile name source, world, .error (.file fault), world⟩
  | read {name : String} {source : Path} {before after : World} {result : Except Fault Unit} {bytes : ByteArray}
      (held : before.disk.Holds source bytes) (answers : Answers closed ⟨.add name bytes, before, result, after⟩) :
      Answers closed ⟨.addFile name source, before, result, after⟩
  | closed {before after : World} (still : ¬ closed) : Answers closed ⟨.close, before, .ok (), after⟩
  | again {world : World} (shut : closed) : Answers closed ⟨.close, world, .ok (), world⟩

end Step

/-! ## The file of a writer -/

variable {before disk : Disk} {world : World} {writer : ArchiveWriter} {content : Content} {location : Location}
  {path : Path} {found : Found}

/-- At a location there is a file with a content, and all else is as it was. -/
structure Filled (location : Location) (content : Content) (before after : Disk) : Prop where
  is : after.tree.get? location = some (.file content)
  others : SameBut (· = location) before after
  here : after.here = before.here

/-- What the file of a writer holds. -/
def held (writer : ArchiveWriter) : Content :=
  if writer.isOpen then .records writer.entries else .archive writer.entries

/-- The file of a writer holds its entries, and all else is as it was before it was opened. -/
def IsKept (writer : ArchiveWriter) (before after : Disk) : Prop :=
  Filled writer.location writer.held before after

theorem Filled.put (filled : Filled location content before disk) (other : Content) :
    Ends (Disk.putFile location other) disk fun r after => r = .ok () ∧ Filled location other before after := by
  have is : disk.tree.get? location ≠ none ∧ disk.tree.get? location ≠ some .sink := by
    rw [filled.is]
    exact ⟨nofun, nofun⟩
  have some_name : location ≠ [] := by
    rintro rfl
    cases filled.is
  refine Disk.putFile_ends (fun _ none => absurd none is.1) (fun sink => absurd sink is.2) fun _ _ => ?_
  refine ⟨rfl, ?_, filled.others.trans (Disk.withEntry_sameBut _), filled.here⟩
  change (disk.tree.put location (.file other)).get? location = _
  rw [FileTree.get?_put _ _ _ some_name, if_pos rfl]

theorem write_filled (filled : Filled writer.location (.records writer.entries) before disk) :
    Ends (writer.write content) disk fun r after =>
      r = .ok () ∧ Filled writer.location content before after := by
  unfold ArchiveWriter.write
  rw [Ends.bind_iff, Ends.get_iff, onward_ok, filled.is]
  dsimp only
  rw [if_pos rfl]
  exact filled.put content

/-! ## Steps -/

/-- What a call makes of a writer. -/
structure Advances (writer : ArchiveWriter) (before : Disk) (done : Step) (next : ArchiveWriter) : Prop where
  answers : done.Answers (writer.isOpen = false)
  location : next.location = writer.location
  entries : next.entries = writer.entries ++ done.added
  isOpen : next.isOpen = false ↔ writer.isOpen = false ∨ done.call = .close
  kept : next.IsKept before done.after.disk

/-- A call that is refused leaves all as it was. -/
theorem Advances.of_refused {call : Call} {fault : Fault} (kept : writer.IsKept before world.disk)
    (answers : Step.Answers (writer.isOpen = false) ⟨call, world, .error fault, world⟩) (other : call ≠ .close) :
    writer.Advances before ⟨call, world, .error fault, world⟩ writer := by
  refine ⟨answers, rfl, ?_, by simp [other], kept⟩
  cases call with
  | close => exact absurd rfl other
  | _ => exact (List.append_nil _).symm

/-- A source that is read is added as its bytes are. -/
theorem Advances.addFile {name : String} {source : Path} {bytes : ByteArray} {world after : World}
    {result : Except Fault Unit} {next : ArchiveWriter} (held : world.disk.Holds source bytes)
    (advances : writer.Advances before ⟨.add name bytes, world, result, after⟩ next) :
    writer.Advances before ⟨.addFile name source, world, result, after⟩ next := by
  obtain ⟨answers, location, entries, isOpen, kept⟩ := advances
  refine ⟨.read held answers, location, entries.trans (congrArg _ ?_), by simpa using isOpen, kept⟩
  cases result with
  | error fault => rfl
  | ok _ =>
    have read : (Disk.readBytes source).run world.disk = (.ok bytes, world.disk) := held
    rw [Step.added, Step.added, read]
    rfl

theorem add_advances (kept : writer.IsKept before world.disk) (name : String) (data : ByteArray) :
    Ends (writer.add name data) world fun r after =>
      writer.Advances before (writer.concluded (.add name data) world (r, after)).1
        (writer.concluded (.add name data) world (r, after)).2 := by
  unfold add
  rw [Ends.bind_iff, Ends.ofExcept_iff]
  cases isOpen : writer.isOpen with
  | false =>
    have closed : writer.appended name data = .error .archiveClosed := by rw [appended, isOpen]; rfl
    rw [closed, onward_error]
    exact .of_refused kept (.refused isOpen) nofun
  | true =>
    have still : ¬ writer.isOpen = false := by simp [isOpen]
    by_cases long : nameLimit < (ArchiveEntry.packed name data).name.utf8ByteSize
    · have refused : writer.appended name data = .error .entryNameSize := by
        rw [appended, isOpen, if_neg (by simp)]
        exact if_pos long
      rw [refused, onward_error]
      exact .of_refused kept (.tooLong still long) nofun
    · have filled : writer.appended name data =
          .ok { writer with entries := writer.entries ++ [.packed name data] } := by
        rw [appended, isOpen, if_neg (by simp)]
        exact if_neg long
      have kept : Filled writer.location (.records writer.entries) before world.disk := by
        simpa [IsKept, held, isOpen] using kept
      rw [filled, onward_ok, Ends.bind_iff, Ends.onDisk_iff]
      refine (write_filled kept).mono fun r after ends => ?_
      obtain ⟨rfl, kept⟩ := ends
      rw [mapError_ok, onward_ok, Ends.pure_iff]
      have kept : IsKept { writer with entries := writer.entries ++ [.packed name data] } before after := by
        simpa [IsKept, held, isOpen] using kept
      have advances : writer.Advances before ⟨.add name data, world, .ok (), { world with disk := after }⟩
          { writer with entries := writer.entries ++ [.packed name data] } :=
        ⟨.added still (Nat.le_of_not_lt long), rfl, rfl, by simp [isOpen], kept⟩
      exact advances

theorem addFile_advances (kept : writer.IsKept before world.disk) (name : String) (source : Path) :
    Ends (writer.addFile name source) world fun r after =>
      writer.Advances before (writer.concluded (.addFile name source) world (r, after)).1
        (writer.concluded (.addFile name source) world (r, after)).2 := by
  unfold ArchiveWriter.addFile
  rw [Ends.bind_iff, Ends.onDisk_iff]
  obtain ⟨r, run⟩ := (Disk.reads_readBytes source).run world.disk
  rw [Ends.of_run run]
  cases r with
  | error fault => exact .of_refused kept (.unread run) nofun
  | ok bytes =>
    rw [mapError_ok, onward_ok]
    refine (add_advances kept name bytes).mono fun r after advances => ?_
    cases r with
    | ok next => exact .addFile run advances
    | error fault => exact .addFile run advances

theorem close_advances (kept : writer.IsKept before world.disk) :
    Ends writer.close world fun r after =>
      writer.Advances before (writer.concluded .close world (r, after)).1
        (writer.concluded .close world (r, after)).2 := by
  unfold close
  cases isOpen : writer.isOpen with
  | false =>
    rw [if_neg (by simp)]
    dsimp only
    rw [Ends.pure_iff]
    have kept : IsKept { writer with isOpen := false } before world.disk := by
      simpa [IsKept, held, isOpen] using kept
    have advances : writer.Advances before ⟨.close, world, .ok (), world⟩ { writer with isOpen := false } :=
      ⟨.again isOpen, rfl, (List.append_nil _).symm, by simp, kept⟩
    exact advances
  | true =>
    have filled : Filled writer.location (.records writer.entries) before world.disk := by
      simpa [IsKept, held, isOpen] using kept
    rw [if_pos rfl, Ends.bind_iff, Ends.onDisk_iff]
    refine (write_filled filled).mono fun r after ends => ?_
    obtain ⟨rfl, filled⟩ := ends
    rw [mapError_ok, onward_ok, Ends.pure_iff]
    have kept : IsKept { writer with isOpen := false } before after := by
      simpa [IsKept, held] using filled
    have advances : writer.Advances before ⟨.close, world, .ok (), { world with disk := after }⟩
        { writer with isOpen := false } :=
      ⟨.closed (by simp [isOpen]), rfl, (List.append_nil _).symm, by simp, kept⟩
    exact advances

/-- What every call does: it is answered as the state of the archive and the length of names demand, and what it adds
stands behind the entries so far. -/
theorem step_advances (kept : writer.IsKept before world.disk) (call : Call) :
    writer.Advances before (writer.step world call).1 (writer.step world call).2 := by
  have ends : Ends (call.job writer) world fun r after =>
      writer.Advances before (writer.concluded call world (r, after)).1
        (writer.concluded call world (r, after)).2 := by
    cases call with
    | add name data => exact add_advances kept name data
    | addFile name source => exact addFile_advances kept name source
    | close => exact close_advances kept
  exact ends

/-! ## Runs -/

theorem Step.Answers.congr {closed ended : Prop} {done : Step} (answers : done.Answers closed)
    (same : closed ↔ ended) : done.Answers ended := propext same ▸ answers

theorem left_cons (world : World) (done : Step) (history : List Step) :
    left world (done :: history) = left done.after history := by
  cases history with
  | nil => rfl
  | cons next history => simp [left, List.getLast?_cons]

/-- Every call is answered as one of an archive that is closed if one of the calls before it has closed it. -/
theorem steps_answer (kept : writer.IsKept before world.disk) (calls : List Call) {earlier later : List Step}
    {done : Step} (split : writer.steps world calls = earlier ++ done :: later) :
    done.Answers (writer.isOpen = false ∨ .close ∈ earlier.map Step.call) := by
  induction calls generalizing writer world earlier with
  | nil => simp [steps] at split
  | cons call calls ih =>
    have advances := step_advances kept call
    rw [steps] at split
    cases earlier with
    | nil =>
      obtain ⟨rfl, -⟩ := List.cons.inj split
      exact advances.answers.congr (by simp)
    | cons first earlier =>
      obtain ⟨rfl, others⟩ := List.cons.inj split
      refine (ih advances.kept others).congr ?_
      rw [advances.isOpen, List.map_cons, List.mem_cons, or_assoc]
      exact or_congr_right (or_congr_left eq_comm)

/-- What calls make of a writer and of its file. -/
theorem steps_kept (kept : writer.IsKept before world.disk) (calls : List Call) :
    ∃ last : ArchiveWriter, last.location = writer.location ∧
      last.entries = writer.entries ++ (writer.steps world calls).flatMap Step.added ∧
      (last.isOpen = false ↔ writer.isOpen = false ∨ .close ∈ calls) ∧
      last.IsKept before (left world (writer.steps world calls)).disk := by
  induction calls generalizing writer world with
  | nil => exact ⟨writer, rfl, (List.append_nil _).symm, by simp, kept⟩
  | cons call calls ih =>
    have advances := step_advances kept call
    obtain ⟨last, location, entries, isOpen, still⟩ := ih advances.kept
    have same_call : (writer.step world call).1.call = call := by
      unfold step concluded
      split <;> rfl
    refine ⟨last, location.trans advances.location, ?_, ?_, ?_⟩
    · rw [entries, advances.entries, steps, List.flatMap_cons, List.append_assoc]
    · rw [isOpen, advances.isOpen, same_call, List.mem_cons, or_assoc]
      exact or_congr_right (or_congr_left eq_comm)
    · rw [steps, left_cons]
      exact still

/-! ## Opening and reading -/

theorem putFile_filled (leaf : ∀ held, disk.tree.get? location = some held → IsLeaf held)
    (no_device : disk.tree.get? location ≠ some .sink) :
    Ends (Disk.putFile location content) disk fun r after => r = .ok () ∧ Filled location content disk after := by
  cases location with
  | nil => exact absurd rfl (leaf .directory rfl).1
  | cons name directory =>
    refine Disk.putFile_ends (fun mode _ => ?_) (fun device => absurd device no_device) fun _ _ => ?_
    · exact ⟨rfl, Disk.get?_withNew_self, Disk.withNew_sameBut _ _, rfl⟩
    · exact ⟨rfl, Disk.get?_withEntry_self, Disk.withEntry_sameBut _, rfl⟩

/-- The place that a path leads to, where a file can be written. -/
structure Takes (disk : Disk) (path : Path) (location : Location) : Prop where
  free : Path.hasNul path.text = false
  leads : ∃ found, disk.find .write path = .ok found ∧ found.location = location
  leaf : ∀ held, disk.tree.get? location = some held → IsLeaf held

/-- An archive that is opened is an empty file, unless a device lies at its path. -/
theorem open_ends (root : world.disk.tree.IsTree)
    (start : world.disk.tree.get? (world.disk.start path) = some .directory)
    (no_device : ∀ location, world.disk.find .write path ≠ .ok (.entry location .sink)) :
    Ends (open_ path) world fun r opened => ∀ writer, r = .ok writer →
      writer.entries = [] ∧ writer.isOpen = true ∧ writer.IsKept world.disk opened.disk ∧
        Takes world.disk path writer.location := by
  unfold open_ Disk.write
  rw [Ends.bind_iff, Ends.onDisk_iff, Ends.bind_iff]
  refine Disk.openForWriting_ends (fun found content free reached writable => ?_) fun fault _ => nofun
  have same := FileTree.eq_found_of_resolve root start (Disk.resolve_of_find reached)
  have there : ∀ held, world.disk.tree.get? found.location = some held → ∃ content, held = .file content := by
    intro held lies
    rw [FileTree.found, lies] at same
    rcases writable _ held same with file | sink
    · exact ⟨content, file⟩
    · exact absurd (sink ▸ same ▸ reached) (no_device _)
  have leaf : ∀ held, world.disk.tree.get? found.location = some held → IsLeaf held :=
    fun held lies => IsWritable.isLeaf (.inr (there held lies))
  have no_sink : world.disk.tree.get? found.location ≠ some .sink := by
    intro sink
    obtain ⟨content, file⟩ := there _ sink
    cases file
  rw [onward_ok]
  dsimp only
  rw [Ends.bind_iff]
  refine (putFile_filled leaf no_sink).mono fun r after ends => ?_
  obtain ⟨rfl, filled⟩ := ends
  rw [onward_ok, Ends.pure_iff, mapError_ok, onward_ok, Ends.pure_iff]
  rintro _ ⟨⟩
  exact ⟨rfl, rfl, filled, free, ⟨found, reached, rfl⟩, leaf⟩

/-- A closed archive is read as its entries by those who may read it. -/
theorem read_ends {entries : List ArchiveEntry} (root : before.tree.IsTree)
    (start : before.tree.get? (before.start path) = some .directory) (takes : Takes before path location)
    (filled : Filled location (.archive entries) before world.disk)
    (granted : world.disk.grants .read location = true) :
    Ends (ArchiveWriter.read path) world fun r after => r = .ok entries ∧ after = world := by
  obtain ⟨found, reached, rfl⟩ := takes.leads
  have kept : Disk.KeepsRoutes before world.disk := by
    refine filled.others.keepsRoutes ?_
    rintro _ rfl
    exact ⟨fun there => (takes.leaf _ there).1 rfl, fun target there => (takes.leaf _ there).2 target rfl⟩
  have there : world.disk.find .look path = .ok (.entry found.location (.file (.archive entries))) :=
    Disk.find_of_written root (.of_here start filled.here) kept filled.is nofun reached
  unfold ArchiveWriter.read Disk.readContent
  rw [Ends.bind_iff, Ends.onDisk_iff, Ends.bind_iff,
    Ends.of_run (Disk.run_openFile_of_file takes.free there granted), onward_ok, Ends.pure_iff, mapError_ok,
    onward_ok, Ends.ofExcept_iff]
  exact ⟨rfl, rfl⟩

/-- Whatever calls are made on an archive that could be opened, and however they end, once it is closed it holds
the entries that they added, in their order, and is read as these by those who may read it. Every call on the way is
answered as the length of names, the sources and the calls before it demand. -/
theorem calls_read_back (path : Path) (calls : List Call) (world : World) (root : world.disk.tree.IsTree)
    (start : world.disk.tree.get? (world.disk.start path) = some .directory)
    (no_device : ∀ location, world.disk.find .write path ≠ .ok (.entry location .sink)) :
    Ends (open_ path) world fun r opened => ∀ writer history, r = .ok writer →
      history = writer.steps opened (calls ++ [.close]) →
      (∀ earlier done later, history = earlier ++ done :: later →
        done.Answers (.close ∈ earlier.map Step.call)) ∧
      (left opened history).disk.tree.get? writer.location =
        some (.file (.archive (history.flatMap Step.added))) ∧
      ((left opened history).disk.grants .read writer.location = true →
        Ends (ArchiveWriter.read path) (left opened history) fun r after =>
          r = .ok (history.flatMap Step.added) ∧ after = left opened history) := by
  refine (open_ends root start no_device).mono fun r opened ends => ?_
  rintro writer _ done rfl
  obtain ⟨none, isOpen, kept, takes⟩ := ends writer done
  obtain ⟨final, location, entries, closed, filled⟩ := steps_kept kept (calls ++ [.close])
  have is_closed : final.isOpen = false := closed.mpr (.inr (by simp))
  rw [none, List.nil_append] at entries
  rw [IsKept, location, held, is_closed, if_neg (by simp), entries] at filled
  refine ⟨fun _ _ _ split => ?_, filled.is, read_ends root start takes filled⟩
  exact (steps_answer kept _ split).congr (by simp [isOpen])

/-- An old file with a link to it, and a source. -/
def shelves : World :=
  .start ⟨((FileTree.empty.put ["old.jar"] (.file (.ofText "old"))).put ["j.jar"] (.link "old.jar")).put ["s"]
    (.file (.raw ⟨#[7]⟩)), [], [], [], 0o022⟩ [] (.ofText "2024-01-02T03:04:05+00:00") none

/-- Additions before and after the archive is closed, some of which fail, and two of one name. -/
def errands : List Call :=
  [.add "geo\\A.class" ⟨#[0xCA, 0xFE]⟩, .addFile "B" (.ofText "missing"), .addFile "B" (.ofText "s"),
    .add "B\x00C" ⟨#[]⟩, .close, .add "D" ⟨#[1]⟩, .addFile "D" (.ofText "s"), .close]

theorem isTree_shelves : shelves.disk.tree.IsTree := by
  have empty : FileTree.empty.IsTree := fun name directory there => absurd rfl there
  have named (name : String) (usual : Path.IsName name ∧ Path.hasNul name = false) {tree : FileTree} {entry : Entry}
      (root : tree.IsTree) (free : tree.get? [name] = none) : (tree.put [name] entry).IsTree :=
    root.put rfl usual.1 usual.2 (.inr (by simp [free]))
  exact named "s" (by decide) (named "j.jar" (by decide) (named "old.jar" (by decide) empty rfl) rfl) rfl

theorem calls_read_back_shelves :
    ∃ opened entries last, (open_ (.ofText "j.jar")).run shelves = (.ok ⟨["old.jar"], [], true⟩, opened) ∧
      entries = [⟨"geo/A.class", .first, .deflated, 27525120, ⟨#[0xCA, 0xFE]⟩⟩,
        ⟨"B", .first, .deflated, 27525120, ⟨#[7]⟩⟩, ⟨"B", .first, .deflated, 27525120, ⟨#[]⟩⟩] ∧
      last = left opened (steps ⟨["old.jar"], [], true⟩ opened (errands ++ [.close])) ∧
      last.disk.tree.get? ["old.jar"] = some (.file (.archive entries)) ∧
      Ends (ArchiveWriter.read (.ofText "j.jar")) last fun r after => r = .ok entries ∧ after = last := by
  have done : ((open_ (.ofText "j.jar")).run shelves).1 = .ok ⟨["old.jar"], [], true⟩ :=
    eq_ok_of_toOption (by decide +kernel)
  have found : shelves.disk.find .write (.ofText "j.jar") =
      .ok (.entry ["old.jar"] (.file (.ofText "old"))) := by decide +kernel
  have ends := calls_read_back (.ofText "j.jar") errands shelves isTree_shelves rfl
    fun location device => by rw [found] at device; cases device
  obtain ⟨-, holds, read⟩ := ends _ _ done rfl
  have added : (steps ⟨["old.jar"], [], true⟩ ((open_ (.ofText "j.jar")).run shelves).2
      (errands ++ [.close])).flatMap Step.added =
        [⟨"geo/A.class", .first, .deflated, 27525120, ⟨#[0xCA, 0xFE]⟩⟩,
          ⟨"B", .first, .deflated, 27525120, ⟨#[7]⟩⟩, ⟨"B", .first, .deflated, 27525120, ⟨#[]⟩⟩] := by
    decide +kernel
  rw [added] at holds read
  exact ⟨_, _, _, Prod.ext done rfl, rfl, rfl, holds, read (by decide +kernel)⟩

/-- The device that keeps nothing. -/
def void : World :=
  .start ⟨(FileTree.empty.put ["dev"] .directory).put ["null", "dev"] .sink, [], [], [], 0o022⟩ []
    (.ofText "2024-01-02T03:04:05+00:00") none

/-- A job ends in the fault of bytes that are no archive. -/
def isNoArchive {α : Type} : Except Fault α → Bool
  | .error (.archive .noEndRecord) => true
  | _ => false

theorem eq_of_isNoArchive {α : Type} {r : Except Fault α} (none : isNoArchive r = true) :
    r = .error (.archive .noEndRecord) := by
  unfold isNoArchive at none
  split at none
  · rfl
  · cases none

/-- An archive can be opened and closed at that device, and nothing is read there, not even that it has no
entries. -/
theorem void_unread :
    ∃ writer opened, (open_ (.ofText "/dev/null")).run void = (.ok writer, opened) ∧
      Ends (ArchiveWriter.read (.ofText "/dev/null")) (left opened (writer.steps opened [.close])) fun r _ =>
        r = .error (.archive .noEndRecord) ∧
          r ≠ .ok ((writer.steps opened [.close]).flatMap Step.added) := by
  have done : ((open_ (.ofText "/dev/null")).run void).1 = .ok ⟨["null", "dev"], [], true⟩ :=
    eq_ok_of_toOption (by decide +kernel)
  refine ⟨_, _, Prod.ext done rfl, ?_⟩
  have refused : Ends (ArchiveWriter.read (.ofText "/dev/null"))
      (left ((open_ (.ofText "/dev/null")).run void).2
        (steps ⟨["null", "dev"], [], true⟩ ((open_ (.ofText "/dev/null")).run void).2 [.close]))
      fun r _ => r = .error (.archive .noEndRecord) := eq_of_isNoArchive (by decide +kernel)
  refine refused.mono fun r _ same => ⟨same, ?_⟩
  subst same
  exact nofun

end JavaStubs.ArchiveWriter

import JavaStubs.Proofs.Files.Directories
import JavaStubs.Proofs.Files.Reading
import JavaStubs.Proofs.Files.Writing
import JavaStubs.Implementor

/-!
Packaging a class file. Only what lies at the end of the archive's path changes, and an archive that
is completed has the class file for its one entry.
-/
namespace JavaStubs

open Disk (Written Replaced OnlyAt SameBut LeadsInto IsWritable KeepsRoutes Holds)
open FileTree (IsTree IsLeaf)

namespace Disk

variable {before after : Disk} {location : Location} {content : Content} {path : Path}
  {bytes : ByteArray}

theorem Written.keepsRoutes_back (written : Written location content before after) :
    KeepsRoutes after before := by
  have others : SameBut (· = location) after before := fun other different => by
    have same := written.others other different
    exact ⟨same.1.symm, same.2.symm⟩
  refine others.keepsRoutes ?_
  rintro _ rfl
  obtain ⟨entry, there, writable⟩ := written.writable
  rw [there]
  exact ⟨fun same => writable.isLeaf.1 (Option.some.inj same),
    fun target same => writable.isLeaf.2 target (Option.some.inj same)⟩

/-- What a path leads to when a file was written, it led to before, unless it is that file. -/
private theorem Written.found_back {entry : Entry} {place : Location}
    (written : Written location content before after) (absolute : path.isAbsolute = true)
    (leaf : IsLeaf entry) (reached : after.find .look path = .ok (.entry place entry)) :
    before.find .look path = .ok (before.tree.found place) ∧
      (place ≠ location → before.tree.found place = .entry place entry) := by
  have there := get?_of_find written.tree absolute reached
  have still (other : place ≠ location) : before.tree.get? place = some entry :=
    (written.others place other).1.symm.trans there
  refine ⟨?_, fun other => by rw [FileTree.found, still other]⟩
  refine find_kept written.tree absolute written.keepsRoutes_back (by decide) ?_ reached
  intro _ held was
  by_cases same : place = location
  · subst same
    exact (written.was held was).isLeaf
  · rw [still same] at was
    cases was
    exact leaf

/-- A file that is read when an archive has been emptied holds what it held before, unless it is the
archive itself. -/
theorem Written.holds (written : Written location (.records []) before after)
    (absolute : path.isAbsolute = true) (holds : after.Holds path bytes) :
    ∃ found, before.find .look path = .ok found ∧
      (found.location = location → bytes = .empty) ∧
      (found.location ≠ location → before.Holds path bytes) := by
  obtain ⟨free, ⟨place, content, reached, granted, rfl⟩ | ⟨place, reached, rfl⟩⟩ := holds.cases
  · obtain ⟨found, other⟩ := written.found_back absolute (IsWritable.isLeaf (.inr ⟨content, rfl⟩)) reached
    refine ⟨_, found, ?_, ?_⟩
    · rw [FileTree.found_location]
      rintro rfl
      have there := get?_of_find written.tree absolute reached
      rcases written.is with file | ⟨-, sink⟩
      · rw [file] at there
        cases there
        rfl
      · rw [sink] at there
        cases there
    · rw [FileTree.found_location]
      intro different
      rw [other different] at found
      rw [(written.others place different).grants] at granted
      exact .of_file free found granted
  · obtain ⟨found, other⟩ := written.found_back absolute (IsWritable.isLeaf (.inl rfl)) reached
    refine ⟨_, found, fun _ => rfl, ?_⟩
    rw [FileTree.found_location]
    intro different
    rw [other different] at found
    exact .of_device free found

end Disk

namespace ArchiveWriter

variable {before disk : Disk} {world : World} {writer : ArchiveWriter} {content : Content}

/-- What is written behind the entries of a file that holds nothing else. -/
theorem write_written (written : Written writer.location (.records writer.entries) before disk) :
    Ends (writer.write content) disk fun r after =>
      r = .ok () ∧ Written writer.location content before after := by
  unfold ArchiveWriter.write
  rw [Ends.bind_iff, Ends.get_iff, onward_ok]
  rcases written.is with file | ⟨was, sink⟩
  · rw [file]
    dsimp only
    rw [if_pos rfl]
    exact written.put file
  · rw [sink]
    exact ⟨rfl, written.was, .inr ⟨was, sink⟩, written.others, written.tree⟩

private theorem appended_cases (isOpen : writer.isOpen = true) (name : String) (bytes : ByteArray) :
    writer.appended name bytes = .error .entryNameSize ∨
      writer.appended name bytes =
        .ok { writer with entries := writer.entries ++ [.packed name bytes] } := by
  rw [appended, isOpen, if_neg (by simp)]
  by_cases long : nameLimit < (ArchiveEntry.packed name bytes).name.utf8ByteSize
  · exact .inl (if_pos long)
  · exact .inr (if_neg long)

theorem addFile_ends {name : String} {source : Path} (isOpen : writer.isOpen = true)
    (written : Written writer.location (.records writer.entries) before world.disk) :
    Ends (writer.addFile name source) world fun
      | .ok filled, after => ∃ bytes, world.disk.Holds source bytes ∧
          filled = { writer with entries := writer.entries ++ [.packed name bytes] } ∧
          Written writer.location (.records filled.entries) before after.disk
      | .error _, after => after.disk = world.disk := by
  unfold ArchiveWriter.addFile
  rw [Ends.bind_iff, Ends.onDisk_iff]
  obtain ⟨r, run⟩ := (Disk.reads_readBytes source).run world.disk
  rw [Ends.of_run run]
  cases r with
  | error fault => rfl
  | ok bytes =>
    rw [mapError_ok, onward_ok]
    unfold ArchiveWriter.add
    rw [Ends.bind_iff, Ends.ofExcept_iff]
    rcases appended_cases isOpen name bytes with same | same
    · rw [same]
      rfl
    · rw [same, onward_ok, Ends.bind_iff, Ends.onDisk_iff]
      refine (write_written written).mono fun r after ends => ?_
      obtain ⟨rfl, written⟩ := ends
      exact ⟨bytes, run, rfl, written⟩

theorem close_ends (isOpen : writer.isOpen = true)
    (written : Written writer.location (.records writer.entries) before world.disk) :
    Ends writer.close world fun r after => (∃ closed, r = .ok closed) ∧
      Written writer.location (.archive writer.entries) before after.disk := by
  unfold close
  rw [isOpen, if_pos rfl, Ends.bind_iff, Ends.onDisk_iff]
  refine (write_written written).mono fun r after ends => ?_
  obtain ⟨rfl, written⟩ := ends
  exact ⟨⟨_, rfl⟩, written⟩

end ArchiveWriter

namespace Implementor

open JavaStubs.Path (IsName)

variable {world : World} {entry : String} {classFile archive : Path}

/-- An archive that was completed: it was emptied, and then filled with what the class file held. -/
structure Packaged (entry : String) (classFile archive : Path) (location : Location)
    (before after : Disk) (opened : Disk) (bytes : ByteArray) : Prop where
  writes : before.WritesAt archive location
  emptied : Written location (.records []) before opened
  held : opened.Holds classFile bytes
  filled : Written location (.archive [.packed entry bytes]) before after

theorem writeArchive_ends (root : world.disk.tree.IsTree) (plain : archive.IsPlain)
    (named : world.disk.EndsInName archive) :
    Ends (writeArchive entry classFile archive) world fun
      | .ok _, after => ∃ location opened bytes,
          Packaged entry classFile archive location world.disk after.disk opened bytes
      | .error _, after => after.disk = world.disk ∨ ∃ location content,
          world.disk.WritesAt archive location ∧ Written location content world.disk after.disk := by
  have alike : Disk.StartsAlike world.disk world.disk archive := .of_absolute plain.absolute
  unfold writeArchive ArchiveWriter.open_
  rw [Ends.bind_iff, Ends.bind_iff, Ends.onDisk_iff]
  refine (Disk.write_found_ends root alike.start named).mono fun r opened ends => ?_
  cases r with
  | error fault =>
    obtain rfl : opened = world.disk := ends
    exact .inl rfl
  | ok location =>
    obtain ⟨writes, emptied⟩ := ends
    rw [mapError_ok, onward_ok, Ends.pure_iff, onward_ok, Ends.bind_iff, Ends.attempt_iff]
    refine (ArchiveWriter.addFile_ends rfl emptied).mono fun r after ends => ?_
    rw [onward_ok]
    cases r with
    | error fault =>
      have same : after.disk = opened := ends
      dsimp only
      rw [Ends.bind_iff]
      rw [← same] at emptied
      refine (ArchiveWriter.close_ends rfl emptied).mono fun r after ends => ?_
      obtain ⟨⟨closed, rfl⟩, written⟩ := ends
      exact .inr ⟨location, _, writes, written⟩
    | ok filled =>
      obtain ⟨bytes, held, rfl, written⟩ := ends
      dsimp only
      rw [Ends.bind_iff]
      refine (ArchiveWriter.close_ends rfl written).mono fun r after ends => ?_
      obtain ⟨⟨closed, rfl⟩, written⟩ := ends
      exact ⟨location, opened, bytes, writes, emptied, held, written⟩

/-- An archive is packaged where its path leads, unless that fails. -/
theorem package_fills (root : world.disk.tree.IsTree) (plain : archive.IsPlain)
    (named : world.disk.EndsInName archive) :
    Ends (package entry classFile archive) world fun r after => r = .ok () → ∃ location opened bytes,
      Packaged entry classFile archive location world.disk after.disk opened bytes := by
  unfold package
  rw [Ends.tryCatch_iff]
  refine (writeArchive_ends root plain named).mono fun r middle ends => ?_
  cases r with
  | ok _ => exact fun _ => ends
  | error fault =>
    rw [caught_error]
    split
    · obtain ⟨discarded, after, run⟩ := Ends.exists_run (discardPartial archive) middle
      rw [Ends.bind_iff, Ends.of_run run]
      cases discarded <;> exact nofun
    · exact nofun

theorem discardPartial_ends (root : world.disk.tree.IsTree) (plain : archive.IsPlain)
    (no_link : world.disk.EndsInNoLink archive) :
    Ends (discardPartial archive) world fun _ after => OnlyAt archive world.disk after.disk := by
  unfold discardPartial
  rw [Ends.tryCatch_iff, Ends.onDisk_iff]
  refine Disk.removeFile_ends (fun place entry reached file => ?_) fun fault refusal => ?_
  · have some_names : archive.names ≠ [] := by
      intro none
      cases Disk.find_of_no_names plain none reached
      exact file rfl
    obtain ⟨location, places, found⟩ := Disk.places_of_find plain some_names (.inl rfl) reached
    unfold FileTree.found at found
    split at found
    · cases found
    · next held =>
      cases found
      have leaf : IsLeaf entry := ⟨file, fun target link => no_link _ places target (link ▸ held)⟩
      have below : world.disk.tree.get? place ≠ some .directory := by
        rw [held]
        exact fun same => file (Option.some.inj same)
      obtain ⟨directory, leads, rfl⟩ := places
      refine .inr ⟨_, ⟨directory, leads, rfl⟩, fun other there => ?_, Disk.without_sameBut, ?_⟩
      · rw [held] at there
        cases there
        exact leaf
      · exact root.erase (by simp) (root.vacant_below below)
  · rw [mapError_error, caught_error]
    split
    · exact .inl rfl
    · exact .inl rfl
    · exact .inl rfl

/-- However packaging ends, only what lies at the end of the archive's path is different. -/
theorem package_ends (root : world.disk.tree.IsTree) (plain : archive.IsPlain)
    (no_link : world.disk.EndsInNoLink archive) :
    Ends (package entry classFile archive) world fun _ after =>
      after.disk.tree.IsTree ∧ OnlyAt archive world.disk after.disk := by
  unfold package
  rw [Ends.tryCatch_iff]
  refine (writeArchive_ends root plain (no_link.endsInName plain)).mono fun r middle ends => ?_
  cases r with
  | ok _ =>
    obtain ⟨location, opened, bytes, packaged⟩ := ends
    have filled := packaged.filled
    exact ⟨filled.tree, .inr ⟨location, filled.places plain no_link packaged.writes, filled.replaced⟩⟩
  | error fault =>
    have written : middle.disk.tree.IsTree ∧ OnlyAt archive world.disk middle.disk ∧
        middle.disk.EndsInNoLink archive := by
      rcases ends with same | ⟨location, content, writes, written⟩
      · rw [same]
        exact ⟨root, .inl rfl, no_link⟩
      · have places := written.places plain no_link writes
        refine ⟨written.tree, .inr ⟨location, places, written.replaced⟩, fun other also target link => ?_⟩
        obtain rfl := (places.kept root plain written.keepsRoutes).unique also
        obtain ⟨entry, there, writable⟩ := written.writable
        rw [there] at link
        exact writable.isLeaf.2 target (Option.some.inj link)
    obtain ⟨tree, only, no_link⟩ := written
    rw [caught_error]
    split
    · rw [Ends.bind_iff]
      refine (discardPartial_ends tree plain no_link).mono fun r after discarded => ?_
      have all := only.trans root plain discarded
      have tree_after := discarded.isTree tree
      cases r with
      | ok _ => exact ⟨tree_after, all⟩
      | error fault => exact ⟨tree_after, all⟩
    · exact ⟨tree, only⟩

end Implementor
end JavaStubs

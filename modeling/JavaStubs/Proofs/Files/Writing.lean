import JavaStubs.Proofs.Files.Changes

/-!
What writing a file changes: what lies at the end of its path, unless a device is there that takes
everything.
-/
namespace JavaStubs.Disk

open FileTree (Purpose Found IsTree IsLeaf)

variable {disk before middle after : Disk} {path : Path} {name : String} {location directory : Location}
  {content : Content}

/-- What may be written to: a regular file, or the device that takes everything. -/
def IsWritable (entry : Entry) : Prop := entry = .sink ∨ ∃ content, entry = .file content

/-- At a location there is a file with a content, or the device that was there before. -/
structure Written (location : Location) (content : Content) (before after : Disk) : Prop where
  was : ∀ entry, before.tree.get? location = some entry → IsWritable entry
  is : after.tree.get? location = some (.file content) ∨
    before.tree.get? location = some .sink ∧ after.tree.get? location = some .sink
  others : SameBut (· = location) before after
  tree : after.tree.IsTree

/-- In place of what lies at a location, which no route leads through, there may be something else. -/
structure Replaced (location : Location) (before after : Disk) : Prop where
  was : ∀ entry, before.tree.get? location = some entry → IsLeaf entry
  others : SameBut (· = location) before after
  tree : after.tree.IsTree

theorem Replaced.trans (first : Replaced location before middle)
    (second : Replaced location middle after) : Replaced location before after :=
  ⟨first.was, first.others.trans second.others, second.tree⟩

theorem Replaced.keepsRoutes (replaced : Replaced location before after) :
    KeepsRoutes before after := by
  refine replaced.others.keepsRoutes ?_
  rintro _ rfl
  exact ⟨fun there => (replaced.was _ there).1 rfl, fun target there => (replaced.was _ there).2 target rfl⟩

/-- At the place of a path's last name, and nowhere else, there may be something else than before. -/
def OnlyAt (path : Path) (before after : Disk) : Prop :=
  after = before ∨ ∃ location, before.Places path location ∧ Replaced location before after

theorem OnlyAt.isTree (only : OnlyAt path before after) (root : before.tree.IsTree) :
    after.tree.IsTree := by
  rcases only with rfl | ⟨location, -, replaced⟩
  · exact root
  · exact replaced.tree

theorem OnlyAt.keepsRoutes (only : OnlyAt path before after) : KeepsRoutes before after := by
  rcases only with rfl | ⟨location, -, replaced⟩
  · exact fun location _ => .refl after location
  · exact replaced.keepsRoutes

theorem OnlyAt.trans (first : OnlyAt path before middle) (root : before.tree.IsTree)
    (plain : path.IsPlain) (second : OnlyAt path middle after) : OnlyAt path before after := by
  rcases first with rfl | ⟨location, places, replaced⟩
  · exact second
  · rcases second with rfl | ⟨other, also, again⟩
    · exact .inr ⟨location, places, replaced⟩
    · obtain rfl := (places.kept root plain replaced.keepsRoutes).unique also
      exact .inr ⟨location, places, replaced.trans again⟩

theorem IsWritable.isLeaf {entry : Entry} (writable : IsWritable entry) : IsLeaf entry := by
  rcases writable with rfl | ⟨content, rfl⟩
  · exact ⟨nofun, nofun⟩
  · exact ⟨nofun, nofun⟩

theorem Written.replaced (written : Written location content before after) :
    Replaced location before after :=
  ⟨fun entry there => (written.was entry there).isLeaf, written.others, written.tree⟩

theorem Written.keepsRoutes (written : Written location content before after) :
    KeepsRoutes before after :=
  written.replaced.keepsRoutes

theorem Written.writable (written : Written location content before after) :
    ∃ entry, after.tree.get? location = some entry ∧ IsWritable entry := by
  rcases written.is with file | ⟨-, sink⟩
  · exact ⟨_, file, .inr ⟨content, rfl⟩⟩
  · exact ⟨_, sink, .inl rfl⟩

/-- Where a file may lie. -/
structure HasRoom (disk : Disk) (name : String) (directory : Location) : Prop where
  above : disk.tree.get? directory = some .directory
  named : Path.IsName name
  free : Path.hasNul name = false
  writable : ∀ entry, disk.tree.get? (name :: directory) = some entry → IsWritable entry

theorem putFile_written (root : disk.tree.IsTree) (room : HasRoom disk name directory) :
    Ends (putFile (name :: directory) content) disk fun r after =>
      r = .ok () ∧ Written (name :: directory) content disk after := by
  have no_directory : disk.tree.get? (name :: directory) ≠ some .directory := fun there =>
    (room.writable _ there).isLeaf.1 rfl
  have tree : (disk.tree.put (name :: directory) (.file content)).IsTree :=
    root.put room.above room.named room.free (.inr no_directory)
  have is : (disk.tree.put (name :: directory) (.file content)).get? (name :: directory) =
      some (.file content) := by
    rw [FileTree.get?_put _ _ _ (by simp), if_pos rfl]
  refine putFile_ends (fun mode _ => ?_) (fun sink => ?_) fun _ _ => ?_
  · exact ⟨rfl, room.writable, .inl is, withNew_sameBut _ _, tree⟩
  · exact ⟨rfl, room.writable, .inr ⟨sink, sink⟩, .refl disk, root⟩
  · exact ⟨rfl, room.writable, .inl is, withEntry_sameBut _, tree⟩

theorem Written.put {other : Content} (written : Written location content before disk)
    (file : disk.tree.get? location = some (.file content)) :
    Ends (putFile location other) disk fun r after => r = .ok () ∧ Written location other before after := by
  cases location with
  | nil => cases file
  | cons name directory =>
    obtain ⟨above, named, free⟩ := written.tree name directory (by simp [file])
    have room : HasRoom disk name directory := by
      refine ⟨above, named, free, fun entry there => ?_⟩
      rw [file] at there
      cases there
      exact .inr ⟨content, rfl⟩
    refine (putFile_written written.tree room).mono fun r after ends => ?_
    obtain ⟨rfl, again⟩ := ends
    refine ⟨rfl, written.was, ?_, written.others.trans again.others, again.tree⟩
    rcases again.is with file | ⟨sink, -⟩
    · exact .inl file
    · rw [file] at sink
      cases sink

theorem Written.ne_nil (written : Written location content before after) : location ≠ [] := by
  rintro rfl
  exact (written.was .directory rfl).isLeaf.1 rfl

/-! ## Writing where a path leads -/

/-- A file that is written at a path goes to a location, where there may be nothing yet. -/
def WritesAt (disk : Disk) (path : Path) (location : Location) : Prop :=
  ∃ found, disk.find .write path = .ok found ∧ found.location = location

theorem WritesAt.unique {other : Location} (writes : disk.WritesAt path location)
    (also : disk.WritesAt path other) : location = other := by
  obtain ⟨found, reached, rfl⟩ := writes
  obtain ⟨_, same, rfl⟩ := also
  rw [Except.ok.inj (reached.symm.trans same)]

/-- What is made where a path leads has a name. -/
def EndsInName (disk : Disk) (path : Path) : Prop :=
  ∀ name directory, Path.hasNul path.text = false → disk.WritesAt path (name :: directory) →
    Path.IsName name ∧ Path.hasNul name = false

/-- Where a path leads, what is made there has a name if NUL is not in it. -/
theorem endsInName_of_free (root : disk.tree.IsTree) (plain : path.IsPlain)
    (free : ∀ name directory, disk.WritesAt path (name :: directory) → disk.tree.get? (name :: directory) = none →
      Path.hasNul name = false) : disk.EndsInName path := by
  intro name directory _ writes
  by_cases vacant : disk.tree.get? (name :: directory) = none
  · refine ⟨?_, free name directory writes vacant⟩
    obtain ⟨found, reached, place⟩ := writes
    have alike : StartsAlike disk disk path := .of_absolute plain.absolute
    have leads := resolve_of_find reached
    rw [FileTree.eq_found_of_resolve root alike.start leads, place, FileTree.found, vacant] at leads
    exact FileTree.isName_of_resolve (fun name member => (plain.named name member).undivided) leads
  · exact (root name directory vacant).2

/-- A path can be followed to its end, and no NUL is in the names of what lies there or might be made there. -/
def IsFollowed (disk : Disk) (path : Path) : Prop :=
  ∃ found, disk.find .look path = .ok found ∧ Path.hasNul found.location.path.text = false

/-- Where a file goes that is written at a path is settled: no link is at the end of the path, or it can be
followed. -/
def IsSettled (disk : Disk) (path : Path) : Prop := disk.EndsInNoLink path ∨ disk.IsFollowed path

/-- No device lies at the place of a path's last name, and the path leads to none. -/
def EndsInNoDevice (disk : Disk) (path : Path) : Prop :=
  (∀ location, disk.Places path location → disk.tree.get? location ≠ some .sink) ∧
    ∀ location, disk.find .look path ≠ .ok (.entry location .sink)

/-- A path without a link at its end leads to no device, if there is none at its place. -/
theorem EndsInNoLink.endsInNoDevice (no_link : disk.EndsInNoLink path) (plain : path.IsPlain)
    (none_there : ∀ location, disk.Places path location → disk.tree.get? location ≠ some .sink) :
    disk.EndsInNoDevice path := by
  refine ⟨none_there, fun location reached => ?_⟩
  by_cases none : path.names = []
  · cases find_of_no_names plain none reached
  · obtain ⟨place, places, found⟩ := places_of_find plain none (.inr no_link) reached
    unfold FileTree.found at found
    split at found
    · cases found
    · next held =>
      cases found
      exact none_there _ places held

/-- A file is written where a path leads, or nothing changes. -/
theorem write_found_ends (root : disk.tree.IsTree) (start : disk.tree.get? (disk.start path) = some .directory)
    (named : disk.EndsInName path) :
    Ends (write path content) disk fun
      | .ok location, after => disk.WritesAt path location ∧ Written location content disk after
      | .error _, after => after = disk := by
  unfold write
  rw [Ends.bind_iff]
  refine openForWriting_ends (fun found held free reached writable => ?_) fun _ _ => rfl
  have leads := resolve_of_find reached
  have same := FileTree.eq_found_of_resolve root start leads
  have above := FileTree.above_of_resolve root start leads
  have there : ∀ entry, disk.tree.get? found.location = some entry → IsWritable entry := by
    intro entry lies
    rw [FileTree.found, lies] at same
    rcases writable _ entry same with file | sink
    · exact .inr ⟨held, file⟩
    · exact .inl sink
  rw [onward_ok]
  dsimp only
  rw [Ends.bind_iff]
  cases place : found.location with
  | nil =>
    rw [place] at there
    exact absurd rfl (there .directory rfl).isLeaf.1
  | cons name directory =>
    have writes : disk.WritesAt path (name :: directory) := ⟨found, reached, place⟩
    obtain ⟨is_name, free⟩ := named name directory free writes
    rw [place] at there above
    refine (putFile_written root ⟨above, is_name, free, there⟩).mono fun r after ends => ?_
    obtain ⟨rfl, written⟩ := ends
    exact ⟨writes, written⟩

theorem WritesAt.places_child (named : Path.IsName name) (no_link : disk.EndsInNoLink (path.child name))
    (writes : disk.WritesAt (path.child name) location) : disk.Places (path.child name) location := by
  obtain ⟨found, reached, rfl⟩ := writes
  obtain ⟨directory, leads⟩ := leadsInto_of_find_child named reached
  have places : disk.Places (path.child name) (name :: directory) :=
    (places_child named).mpr ⟨directory, leads, rfl⟩
  rwa [found_of_find_child named leads (.inr (no_link _ places)) reached, FileTree.found_location]

theorem EndsInNoLink.endsInName_child (named : Path.IsName name) (no_link : disk.EndsInNoLink (path.child name)) :
    disk.EndsInName (path.child name) := by
  intro last directory free writes
  obtain ⟨_, -, same⟩ := (places_child named).mp (writes.places_child named no_link)
  obtain ⟨rfl, rfl⟩ := List.cons.inj same
  rw [Path.hasNul_child named, Bool.or_eq_false_iff] at free
  exact ⟨named, free.2⟩

/-- A path without names leads to no place that has a name. -/
private theorem WritesAt.some_names (plain : path.IsPlain) (writes : disk.WritesAt path (name :: directory)) :
    path.names ≠ [] := by
  intro none
  obtain ⟨found, reached, place⟩ := writes
  rw [find_of_no_names plain none reached] at place
  cases place

theorem WritesAt.places (plain : path.IsPlain) (no_link : disk.EndsInNoLink path)
    (writes : disk.WritesAt path (name :: directory)) : disk.Places path (name :: directory) := by
  obtain ⟨parent, last, rfl, -, named⟩ := plain.cases.resolve_left (writes.some_names plain)
  exact writes.places_child named no_link

/-- Where a file lies that was written at a path without a link at its end. -/
theorem Written.places (written : Written location content before after) (plain : path.IsPlain)
    (no_link : before.EndsInNoLink path) (writes : before.WritesAt path location) :
    before.Places path location := by
  cases location with
  | nil => exact absurd rfl written.ne_nil
  | cons name directory => exact writes.places plain no_link

theorem EndsInNoLink.endsInName (plain : path.IsPlain) (no_link : disk.EndsInNoLink path) :
    disk.EndsInName path := by
  intro name directory free writes
  obtain ⟨parent, last, rfl, -, named⟩ := plain.cases.resolve_left (writes.some_names plain)
  exact no_link.endsInName_child named name directory free writes

/-- A file is written at a name in the directory that a path leads to, wherever that starts, or nothing
changes. -/
theorem write_child_ends (root : disk.tree.IsTree) (start : disk.tree.get? (disk.start path) = some .directory)
    (named : Path.IsName name) (no_link : disk.EndsInNoLink (path.child name)) :
    Ends (write (path.child name) content) disk fun
      | .ok location, after => disk.Places (path.child name) location ∧ Written location content disk after ∧
          disk.WritesAt (path.child name) location
      | .error _, after => after = disk := by
  rw [← start_child named] at start
  refine (write_found_ends root start (no_link.endsInName_child named)).mono fun r after ends => ?_
  cases r with
  | error fault => exact ends
  | ok location => exact ⟨ends.1.places_child named no_link, ends.2, ends.1⟩

/-- A file is written at the place of a path's last name, or nothing changes. -/
theorem write_ends (root : disk.tree.IsTree) (plain : path.IsPlain) (no_link : disk.EndsInNoLink path) :
    Ends (write path content) disk fun
      | .ok location, after => disk.Places path location ∧ Written location content disk after ∧
          disk.WritesAt path location
      | .error _, after => after = disk := by
  have alike : StartsAlike disk disk path := .of_absolute plain.absolute
  refine (write_found_ends root alike.start (no_link.endsInName plain)).mono fun r after ends => ?_
  cases r with
  | error fault => exact ends
  | ok location =>
    obtain ⟨writes, written⟩ := ends
    exact ⟨written.places plain no_link writes, written, writes⟩

theorem write_here (path : Path) (content : Content) (disk : Disk) :
    Ends (write path content) disk fun _ after => after.here = disk.here := by
  unfold write
  rw [Ends.bind_iff]
  refine openForWriting_ends (fun _ _ _ _ _ => ?_) fun _ _ => rfl
  rw [onward_ok]
  dsimp only
  rw [Ends.bind_iff]
  exact putFile_ends (fun _ _ => rfl) (fun _ => rfl) fun _ _ => rfl

end JavaStubs.Disk

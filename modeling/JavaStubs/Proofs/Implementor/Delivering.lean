import JavaStubs.Proofs.Implementor.Keeping

/-!
What is at the archive's path when an archive was asked for and produced. Whatever was there and whatever
is left of the workspace, it is a file with one entry, which has the bytes of the class file.
-/
namespace JavaStubs

namespace Implementor

open Disk (KeepsFile SameAt)

variable {implementor : Implementor} {described : Interface} {place : Path} {type archive : String}
  {world : World}

/-- A path leads to an archive with one entry. -/
def LeadsToEntry (disk : Disk) (place : Path) (location : Location) (name : String) (bytes : ByteArray) :
    Prop :=
  disk.find .look place = .ok (.entry location (.file (.archive [.packed name bytes])))

/-- A job prepares the class file whose bytes an archive gets at its location. -/
def Prepares (prepare : Job Path) (world : World) (place : Path) (location : Location) (bytes : ByteArray) :
    Prop :=
  Ends prepare world fun r compiled => compiled.disk.WritesAt place location ∧
    ∃ classFile, r = .ok classFile ∧ Supplies compiled.disk classFile location bytes

/-- Where it was settled where the archive goes, and no device was there, building it leaves a file with one entry
there, if it succeeds. -/
theorem buildArchive_delivers (undivided : implementor.settings.IsUndivided)
    (filed : Implementation.IsFiled described) (confined : implementor.compiler.IsConfined)
    (root : world.disk.tree.IsTree) (plain : place.IsPlain) (settled : world.disk.IsSettled place)
    (no_device : world.disk.EndsInNoDevice place) :
    Ends (implementor.buildArchive described place) world fun r after => r = .ok () → ∃ location bytes,
      LeadsToEntry after.disk place location (entryName implementor.settings described) bytes ∧
        Prepares (implementor.preparedBeside described place) world place location bytes := by
  rw [buildArchive_eq]
  refine Workspace.within_concludes root plain undivided.tempPrefix (fun fault after _ => nofun) ?_
  intro middle name directory ready acquired from_ready
  refine (stages_stock undivided filed confined root plain acquired settled fun post =>
    from_ready _ post).mono fun r worked stocked ended after how cleared success => ?_
  subst success
  rcases how with rfl | ⟨fault, same⟩
  · obtain ⟨location, bytes, -, compiled, opened, classFile, below, packaged, supplies, prepared⟩ := stocked rfl
    have filled := packaged.filled
    obtain ⟨-, issues, -, released⟩ := cleared filled.tree
      ((Workspace.StaysBelow.keepsRoutes acquired below).trans filled.keepsRoutes)
    have file : worked.disk.tree.get? location =
        some (.file (.archive [.packed (entryName implementor.settings described) bytes])) := by
      rcases filled.is with file | ⟨sink, -⟩
      · exact file
      · exact absurd sink
          (Workspace.StaysBelow.no_device acquired plain root settled no_device below packaged.writes)
    have leads := released.find acquired plain root settled below packaged.writes filled file
    refine ⟨location, bytes, leads, prepared.mono fun r later ends => ?_⟩
    obtain ⟨rfl, rfl, -⟩ := ends
    exact ⟨packaged.writes, classFile, rfl, supplies⟩
  · cases same

/-! ## The whole invocation -/

/-- All keep to their part when an archive is asked for, it is settled where that goes, and no device is there. -/
structure IsSafe (implementor : Implementor) (type archive : String) (world : World) : Prop extends
    implementor.IsCareful type archive world where
  settled : world.disk.IsSettled (placeOf world archive)
  no_device : world.disk.EndsInNoDevice (placeOf world archive)

/-- The path of an archive that was asked for leads to a file with one entry, the class file of the type
that was described. -/
def Delivers (implementor : Implementor) (type archive : String) (world : World) (described : Interface)
    (location : Location) (bytes : ByteArray) (after : Disk) : Prop :=
  Ends (implementor.introspector type) world (fun r _ => r = .ok described) ∧
    LeadsToEntry after (placeOf world archive) location (entryName implementor.settings described) bytes ∧
    Prepares (implementor.silent.prepared type (.ofText archive)) world (placeOf world archive) location bytes

theorem silent_delivers (safe : implementor.IsSafe type archive world) :
    Ends (implementor.silent.generateArchive type (.ofText archive)) world fun r after =>
      ∀ produced, r = .ok produced → produced = placeOf world archive ∧
        ∃ described location bytes,
          implementor.Delivers type archive world described location bytes after.disk := by
  have described := @describe_ends implementor.silent world _ type "archive" rfl safe.describes
  obtain ⟨r, ready, run⟩ := Ends.exists_run (implementor.silent.describe "archive" type) world
  rw [Ends.of_run run] at described
  obtain ⟨same, success⟩ := described
  unfold Delivers Prepares generateArchive prepared
  simp only [Ends.bind_iff, Ends.of_run run]
  cases r with
  | error fault => exact nofun
  | ok described =>
    obtain ⟨filed, introspected⟩ := success described rfl
    have here : Path.absoluteFrom ready.disk.here.path (.ofText archive) = placeOf world archive := by
      rw [same]
      rfl
    rw [onward_ok, absolute_iff, here, Ends.bind_iff, Ends.attempt_iff]
    have built := @buildArchive_delivers implementor.silent described _ ready safe.undivided filed
      safe.confined (same ▸ safe.root) (safe.isPlain archive) (same ▸ safe.settled) (same ▸ safe.no_device)
    refine built.mono fun r after delivers => ?_
    rw [onward_ok]
    split
    · rw [Ends.bind_iff, note_of_none rfl, Ends.pure_iff, onward_ok, Ends.pure_iff]
      intro produced done
      obtain ⟨location, bytes, leads, prepares⟩ := delivers rfl
      refine ⟨(Except.ok.inj done).symm, described, location, bytes, introspected, leads, ?_⟩
      rw [onward_ok, absolute_iff, here]
      exact prepares
    · unfold noteFailure
      rw [note_of_none rfl, Ends.bind_iff, Ends.pure_iff, onward_ok, Ends.throw_iff]
      exact nofun
    · exact nofun

/-- When an archive was asked for and produced, its path leads to a file with one entry, the class file of
the type that was described. -/
theorem generateArchive_delivers (safe : implementor.IsSafe type archive world) :
    Ends (implementor.generateArchive type (.ofText archive)) world fun r after =>
      ∀ produced, r = .ok produced → produced = placeOf world archive ∧
        ∃ described location bytes,
          implementor.Delivers type archive world described location bytes after.disk := by
  have delivers := silent_delivers safe
  obtain ⟨r, after, run⟩ :=
    Ends.exists_run (implementor.silent.generateArchive type (.ofText archive)) world
  rw [Ends.of_run run] at delivers
  refine generateArchive_concludes
    ((Ends.of_run run).mpr ⟨fun outcome details _ => ?_, fun _ _ _ => delivers⟩)
  cases kept : implementor.journal with
  | none =>
    rw [note_of_none kept, Ends.pure_iff]
    exact delivers
  | some journal =>
    have spared := safe.journal journal kept
    rw [Ends.of_run run] at spared
    rw [note_eq kept, Ends.bind_iff]
    refine (spared _).mono fun appended later spared => ?_
    cases appended with
    | error fault => exact nofun
    | ok path =>
      intro produced done
      obtain ⟨here, described, location, bytes, introspected, leads, prepares⟩ := delivers produced done
      exact ⟨here, described, location, bytes, introspected, spared _ _ leads, prepares⟩

end Implementor
end JavaStubs

import JavaStubs.Proofs.Workspace.Within

/-!
What a workspace leaves alone. As long as a job in it changes nothing but what lies in it, all that was
there before is there afterwards and as it was, whether or not the workspace can be cleared away.
-/
namespace JavaStubs

namespace Disk

variable {disk before middle after : Disk} {path : Path} {location : Location}

/-- Whatever was there is there still, as it was; there may be more. -/
def Keeps (before after : Disk) : Prop :=
  ∀ location, before.tree.get? location ≠ none → SameAt before after location

theorem Keeps.refl (disk : Disk) : Keeps disk disk := fun location _ => .refl disk location

theorem Keeps.trans (first : Keeps before middle) (second : Keeps middle after) : Keeps before after := by
  intro location there
  have same := first location there
  exact same.trans (second location (same.1 ▸ there))

theorem Keeps.keepsRoutes (keeps : Keeps before after) : KeepsRoutes before after := by
  rintro location (there | ⟨target, there⟩)
  · exact keeps location (by simp [there])
  · exact keeps location (by simp [there])

/-- A path leads to what it led to. -/
theorem Keeps.find {entry : Entry} (keeps : Keeps before after) (root : before.tree.IsTree)
    (absolute : path.isAbsolute = true) (there : before.find .look path = .ok (.entry location entry)) :
    after.find .look path = .ok (.entry location entry) := by
  have held := get?_of_find root absolute there
  have held_still : after.tree.get? location = some entry :=
    (keeps location (by simp [held])).1.trans held
  have reached := find_kept root absolute keeps.keepsRoutes (by decide) (fun leaf other same => ?_) there
  · rwa [FileTree.found, held_still] at reached
  · rw [held_still] at same
    exact Option.some.inj same ▸ leaf

/-- If a path leads to a file, it leads there still, and the file has the content that it had. -/
def KeepsFile (path : Path) (before after : Disk) : Prop :=
  ∀ location content, before.find .look path = .ok (.entry location (.file content)) →
    after.find .look path = .ok (.entry location (.file content))

theorem KeepsFile.refl (path : Path) (disk : Disk) : KeepsFile path disk disk := fun _ _ there => there

theorem KeepsFile.trans (first : KeepsFile path before middle) (second : KeepsFile path middle after) :
    KeepsFile path before after :=
  fun location content there => second location content (first location content there)

theorem Keeps.keepsFile (keeps : Keeps before after) (root : before.tree.IsTree)
    (absolute : path.isAbsolute = true) : KeepsFile path before after :=
  fun _ _ there => keeps.find root absolute there

theorem Grown.keeps (grown : Grown path before after) : Keeps before after := by
  intro location there
  rcases grown location with same | ⟨vacant, -⟩
  · exact same
  · exact absurd vacant there

theorem Made.keeps {name : String} {directory : Location} (made : Made path name directory before after) :
    Keeps before after := by
  refine fun location there => made.others location ?_
  rintro rfl
  exact there made.vacant

end Disk

namespace Workspace

open Disk (Keeps StaysBelow)

variable {archive : Path} {before middle ready worked after : Disk} {name start : String}
  {directory : Location} {α : Type} {body : Path → Job α} {world : World}

/-- Whatever remains of a workspace, what was there before is there when it has been released. -/
theorem Released.keeps {issues : List CleanupIssue}
    (acquired : Acquired archive before middle name directory ready)
    (below : StaysBelow (name :: directory) ready worked)
    (released : Released (name :: directory) worked issues after) : Keeps before after := by
  intro location there
  have first := acquired.grown.keeps location there
  have outside : ¬ name :: directory <:+ location := fun within =>
    (first.1 ▸ there) (acquired.tree.vacant_within acquired.made.vacant within)
  have made := acquired.made.keeps location (first.1 ▸ there)
  exact first.trans (made.trans ((below.same location fun inside => outside inside.1).trans
    (released.same location outside)))

/-- A job in a workspace ends as it does there, or in a fault of the disk; and what was there before is there
still, if the job changed nothing but what lies in the workspace. -/
theorem within_keeps {post : Except Fault α → World → Prop} (root : world.disk.tree.IsTree)
    (plain : archive.IsPlain) (undivided : '/' ∉ start.toList)
    (refused : ∀ fault after, Keeps world.disk after.disk → post (.error fault) after)
    (works : ∀ middle name directory (ready : World),
      Acquired archive world.disk middle name directory ready.disk →
      (∀ {β : Type} (job : Path → Job β) (post : Except Fault β → World → Prop),
        Ends (entered archive start job) world post ↔ Ends (job (archive.parent.child name)) ready post) →
      Ends (body (archive.parent.child name)) ready fun r worked => ∀ ended after,
        ended = r ∨ (∃ fault, ended = .error (.file fault)) →
        (StaysBelow (name :: directory) ready.disk worked.disk → Keeps world.disk after.disk) →
        post ended after) :
    Ends (within archive start body) world post := by
  refine within_concludes root plain undivided (fun fault after grown => refused fault after grown.keeps)
    fun middle name directory ready acquired enters => ?_
  refine (works middle name directory ready acquired enters).mono fun r worked done ended after how cleared => ?_
  refine done ended after how fun below => ?_
  obtain ⟨-, issues, -, released⟩ := cleared below.tree (StaysBelow.keepsRoutes acquired below)
  exact released.keeps acquired below

end Workspace
end JavaStubs

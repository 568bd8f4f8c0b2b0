import Mathlib.Data.List.Nodup
import Mathlib.Logic.Relation

/-!
Depth-first visits of a graph. `Visits below seen names order` is the recursive search in preorder:
the names of a list are visited one after another, a name that was seen is passed over, and behind
a new name come those below it. The visited names are exactly the ones that can be reached, each
of them once, and every one but the first is met behind a name that leads to it.
-/
namespace JavaStubs.Hierarchy

variable {α : Type} {below : α → List α}

/-- The search from `names`, in which those in `seen` are not visited again, meets the names in
`order`. -/
inductive Visits (below : α → List α) : List α → List α → List α → Prop
  | done (seen : List α) : Visits below seen [] []
  | skip {seen names order : List α} {name : α} (old : name ∈ seen)
      (others : Visits below seen names order) : Visits below seen (name :: names) order
  | enter {seen names under order : List α} {name : α} (new : name ∉ seen)
      (inside : Visits below (name :: seen) (below name) under)
      (others : Visits below (under ++ name :: seen) names order) :
      Visits below seen (name :: names) (name :: under ++ order)

/-- One step of a graph. -/
def LeadsTo (below : α → List α) (a b : α) : Prop := b ∈ below a

/-- A name can be reached from another one. -/
def Reaches (below : α → List α) : α → α → Prop := Relation.ReflTransGen (LeadsTo below)

namespace Visits

/-! ## The seen names as a set -/

/-- Only which names were seen counts, not their order. -/
theorem congr_seen {seen other names order : List α} (same : ∀ x, x ∈ seen ↔ x ∈ other)
    (visits : Visits below seen names order) : Visits below other names order := by
  induction visits generalizing other with
  | done => exact .done other
  | skip old _ ih => exact .skip ((same _).mp old) (ih same)
  | @enter seen names under order name new _ _ inside others =>
    refine .enter (fun h => new ((same _).mpr h)) (inside ?_) (others ?_)
    · intro x; simp [same x]
    · intro x; simp [same x]

/-- A search from two lists one behind the other is a search from the first and one from the
second, in which what the first has met counts as seen. -/
theorem append_iff {seen first second order : List α} :
    Visits below seen (first ++ second) order ↔
      ∃ a b, Visits below seen first a ∧ Visits below (a ++ seen) second b ∧ order = a ++ b := by
  constructor
  · intro visits
    induction first generalizing seen order with
    | nil => exact ⟨[], order, .done seen, visits, rfl⟩
    | cons name first ih =>
      cases visits with
      | skip old others =>
        obtain ⟨a, b, front, back, rfl⟩ := ih others
        exact ⟨a, b, .skip old front, back, rfl⟩
      | @enter _ _ under rest _ new inside others =>
        obtain ⟨a, b, front, back, rfl⟩ := ih others
        refine ⟨name :: under ++ a, b, .enter new inside front, back.congr_seen ?_, by simp⟩
        intro x
        simp only [List.mem_append, List.mem_cons]
        tauto
  · rintro ⟨a, b, front, back, rfl⟩
    induction front generalizing b with
    | done => simpa using back
    | skip old _ ih => exact .skip old (ih _ back)
    | @enter seen names under rest name new inside _ _ ih =>
      have moved : Visits below (rest ++ (under ++ name :: seen)) second b := by
        refine back.congr_seen fun x => ?_
        simp only [List.mem_append, List.mem_cons]
        tauto
      have joined := Visits.enter new inside (ih _ moved)
      simpa using joined

/-- There is one order for a search. -/
theorem unique {seen names a b : List α} (first : Visits below seen names a)
    (second : Visits below seen names b) : a = b := by
  induction first generalizing b with
  | done => cases second; rfl
  | skip old _ ih =>
    cases second with
    | skip _ others => exact ih others
    | enter new _ _ => exact absurd old new
  | enter new _ _ inside others =>
    cases second with
    | skip old _ => exact absurd old new
    | enter _ inside' others' =>
      cases inside inside'
      rw [others others']

/-! ## What is visited -/

theorem new_of_mem {seen names order : List α} (visits : Visits below seen names order) {x : α}
    (member : x ∈ order) : x ∉ seen := by
  induction visits with
  | done => simp at member
  | skip _ _ ih => exact ih member
  | enter new _ _ inside others =>
    rcases List.mem_append.mp member with h | h
    · rcases List.mem_cons.mp h with rfl | h
      · exact new
      · exact fun old => inside h (List.mem_cons_of_mem _ old)
    · exact fun old => others h (by simp [old])

/-- No name is visited twice. -/
theorem nodup {seen names order : List α} (visits : Visits below seen names order) :
    order.Nodup := by
  induction visits with
  | done => exact List.nodup_nil
  | skip _ _ ih => exact ih
  | @enter seen names under order name _ inside others under_nodup order_nodup =>
    refine List.nodup_append'.mpr ⟨List.nodup_cons.mpr ⟨?_, under_nodup⟩, order_nodup, ?_⟩
    · exact fun h => inside.new_of_mem h List.mem_cons_self
    · intro x entered later
      exact others.new_of_mem later (by
        rcases List.mem_cons.mp entered with rfl | h
        · simp
        · simp [h])

/-- Each name that the search starts from was seen before or is visited. -/
theorem covers {seen names order : List α} (visits : Visits below seen names order) {x : α}
    (member : x ∈ names) : x ∈ order ∨ x ∈ seen := by
  induction visits with
  | done => simp at member
  | skip old _ ih =>
    rcases List.mem_cons.mp member with rfl | h
    · exact Or.inr old
    · exact ih h
  | enter _ _ _ _ others =>
    rcases List.mem_cons.mp member with rfl | h
    · exact Or.inl (by simp)
    · rcases others h with h | h
      · exact Or.inl (by simp [h])
      · simp only [List.mem_append, List.mem_cons] at h ⊢
        tauto

/-- What lies below a visited name was seen before or is visited. -/
theorem closed {seen names order : List α} (visits : Visits below seen names order) {x y : α}
    (member : x ∈ order) (edge : LeadsTo below x y) : y ∈ order ∨ y ∈ seen := by
  induction visits with
  | done => simp at member
  | skip _ _ ih => exact ih member
  | @enter seen names under order name _ inside _ under_closed order_closed =>
    rcases List.mem_append.mp member with h | h
    · have found : y ∈ under ∨ y ∈ name :: seen := by
        rcases List.mem_cons.mp h with rfl | h
        · exact inside.covers edge
        · exact under_closed h
      simp only [List.mem_append, List.mem_cons] at found ⊢
      tauto
    · have found := order_closed h
      simp only [List.mem_append, List.mem_cons] at found ⊢
      tauto

/-- Every visited name is reached from one of those that the search starts from. -/
theorem reached {seen names order : List α} (visits : Visits below seen names order) {x : α}
    (member : x ∈ order) : ∃ start ∈ names, Reaches below start x := by
  induction visits with
  | done => simp at member
  | skip _ _ ih =>
    obtain ⟨start, h, path⟩ := ih member
    exact ⟨start, List.mem_cons_of_mem _ h, path⟩
  | @enter seen names under order name _ _ _ inside others =>
    rcases List.mem_append.mp member with h | h
    · rcases List.mem_cons.mp h with rfl | h
      · exact ⟨x, List.mem_cons_self, .refl⟩
      · obtain ⟨start, edge, path⟩ := inside h
        exact ⟨name, List.mem_cons_self, .head edge path⟩
    · obtain ⟨start, h, path⟩ := others h
      exact ⟨start, List.mem_cons_of_mem _ h, path⟩

/-- A search that starts with nothing seen visits what can be reached, and nothing else. -/
theorem mem_iff {target : α} {order : List α} (visits : Visits below [] [target] order) (x : α) :
    x ∈ order ↔ Reaches below target x := by
  constructor
  · intro member
    obtain ⟨start, h, path⟩ := visits.reached member
    rwa [List.mem_singleton.mp h] at path
  · intro path
    induction path with
    | refl => simpa using visits.covers (List.mem_singleton.mpr rfl)
    | tail _ edge ih => simpa using visits.closed ih edge

end Visits

/-! ## Which name is met first -/

/-- A name stands before another one in an order. -/
def Precedes (order : List α) (a b : α) : Prop :=
  ∃ front back, order = front ++ b :: back ∧ a ∈ front

/-- A name can be reached on a way on which no step is made from `pivot`. -/
def ReachesWithout (below : α → List α) (pivot : α) : α → α → Prop :=
  Relation.ReflTransGen fun a b => LeadsTo below a b ∧ a ≠ pivot

namespace Precedes

variable {order others : List α} {a b c : α}

theorem cons (precedes : Precedes order a b) : Precedes (c :: order) a b := by
  obtain ⟨front, back, rfl, member⟩ := precedes
  exact ⟨c :: front, back, rfl, List.mem_cons_of_mem _ member⟩

theorem append_right (precedes : Precedes order a b) : Precedes (order ++ others) a b := by
  obtain ⟨front, back, rfl, member⟩ := precedes
  exact ⟨front, back ++ others, by simp, member⟩

theorem append_left (precedes : Precedes order a b) : Precedes (others ++ order) a b := by
  obtain ⟨front, back, rfl, member⟩ := precedes
  exact ⟨others ++ front, back, by simp, List.mem_append_right _ member⟩

theorem head (member : b ∈ order) : Precedes (a :: order) a b := by
  obtain ⟨front, back, rfl⟩ := List.append_of_mem member
  exact ⟨a :: front, back, rfl, List.mem_cons_self⟩

theorem of_append (first : a ∈ order) (second : b ∈ others) : Precedes (order ++ others) a b := by
  obtain ⟨front, back, rfl⟩ := List.append_of_mem second
  exact ⟨order ++ front, back, by simp, List.mem_append_left _ first⟩

end Precedes

namespace Visits

/-- A visited name that `pivot` does not precede is reached without `pivot`. -/
theorem precedes_or_reachesWithout {seen names order : List α} {pivot x : α}
    (visits : Visits below seen names order) (member : x ∈ order) (other : x ≠ pivot) :
    pivot ∈ seen ∨ Precedes order pivot x ∨ ∃ start ∈ names, ReachesWithout below pivot start x := by
  induction visits with
  | done => simp at member
  | skip _ _ ih =>
    rcases ih member with h | h | ⟨start, h, path⟩
    · exact Or.inl h
    · exact Or.inr (Or.inl h)
    · exact Or.inr (Or.inr ⟨start, List.mem_cons_of_mem _ h, path⟩)
  | @enter seen names under order name _ _ _ inside others =>
    by_cases same : name = pivot
    · rcases List.mem_cons.mp member with rfl | h
      · exact absurd same other
      · subst same
        exact Or.inr (Or.inl (Precedes.head h))
    · rcases List.mem_append.mp member with h | h
      · rcases List.mem_cons.mp h with rfl | h
        · exact Or.inr (Or.inr ⟨x, List.mem_cons_self, .refl⟩)
        · rcases inside h with h | h | ⟨start, edge, path⟩
          · exact Or.inl ((List.mem_cons.mp h).resolve_left (Ne.symm same))
          · exact Or.inr (Or.inl h.cons.append_right)
          · exact Or.inr (Or.inr ⟨name, List.mem_cons_self, .head ⟨edge, same⟩ path⟩)
      · rcases others h with h' | h' | ⟨start, h', path⟩
        · rcases List.mem_append.mp h' with under | old
          · exact Or.inr (Or.inl (Precedes.of_append (List.mem_cons_of_mem _ under) h))
          · exact Or.inl ((List.mem_cons.mp old).resolve_left (Ne.symm same))
        · exact Or.inr (Or.inl h'.append_left)
        · exact Or.inr (Or.inr ⟨start, List.mem_cons_of_mem _ h', path⟩)

/-- A name that lies on every way to another one is met before it. -/
theorem precedes_of_not_reachesWithout {target pivot x : α} {order : List α}
    (visits : Visits below [] [target] order) (member : x ∈ order) (other : x ≠ pivot)
    (only : ¬ ReachesWithout below pivot target x) : Precedes order pivot x := by
  rcases visits.precedes_or_reachesWithout member other with h | h | ⟨start, h, path⟩
  · simp at h
  · exact h
  · rw [List.mem_singleton.mp h] at path
    exact absurd path only

end Visits
end JavaStubs.Hierarchy

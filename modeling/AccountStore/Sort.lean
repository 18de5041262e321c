/-!
Stable sorting by a relation, by insertion.

A list that is already sorted is passed once.
-/

namespace AccountStore

def insertSorted (le : α → α → Bool) (a : α) : List α → List α
  | [] => [a]
  | b :: rest => if le a b then a :: b :: rest else b :: insertSorted le a rest

def sorted (le : α → α → Bool) : List α → List α
  | [] => []
  | a :: rest => insertSorted le a (sorted le rest)

theorem insertSorted_perm (le : α → α → Bool) (a : α) (list : List α) :
    (insertSorted le a list).Perm (a :: list) := by
  induction list with
  | nil => exact .refl _
  | cons b rest ih =>
      rw [insertSorted]
      split
      · exact .refl _
      · exact (ih.cons b).trans (.swap a b rest)

theorem sorted_perm (le : α → α → Bool) (list : List α) : (sorted le list).Perm list := by
  induction list with
  | nil => exact .refl _
  | cons a rest ih => exact (insertSorted_perm le a _).trans (ih.cons a)

theorem insertSorted_pairwise {le : α → α → Bool} (total : ∀ a b, le a b = true ∨ le b a = true)
    (transitive : ∀ a b c, le a b = true → le b c = true → le a c = true) (a : α) {list : List α}
    (ordered : list.Pairwise fun a b => le a b = true) :
    (insertSorted le a list).Pairwise fun a b => le a b = true := by
  induction list with
  | nil => simp [insertSorted]
  | cons b rest ih =>
      rw [List.pairwise_cons] at ordered
      rw [insertSorted]
      split
      · rename_i first
        refine List.pairwise_cons.2 ⟨fun c member => ?_, List.pairwise_cons.2 ordered⟩
        rcases List.mem_cons.1 member with rfl | later
        · exact first
        · exact transitive _ _ _ first (ordered.1 c later)
      · rename_i notFirst
        refine List.pairwise_cons.2 ⟨fun c member => ?_, ih ordered.2⟩
        rcases List.mem_cons.1 ((insertSorted_perm le a rest).mem_iff.1 member) with rfl | later
        · exact (total _ _).resolve_right notFirst
        · exact ordered.1 c later

theorem sorted_pairwise {le : α → α → Bool} (total : ∀ a b, le a b = true ∨ le b a = true)
    (transitive : ∀ a b c, le a b = true → le b c = true → le a c = true) (list : List α) :
    (sorted le list).Pairwise fun a b => le a b = true := by
  induction list with
  | nil => exact .nil
  | cons a rest ih => exact insertSorted_pairwise total transitive a ih

/-- A sorted list stays as it is. -/
theorem sorted_eq_self {le : α → α → Bool} {list : List α}
    (ordered : list.Pairwise fun a b => le a b = true) : sorted le list = list := by
  induction list with
  | nil => rfl
  | cons a rest ih =>
      rw [List.pairwise_cons] at ordered
      rw [sorted, ih ordered.2]
      cases rest with
      | nil => rfl
      | cons b rest => rw [insertSorted, if_pos (ordered.1 b (by simp))]

end AccountStore

import AccountStore.Sort
import Mathlib.Data.List.Nodup
import Mathlib.Data.String.Basic

/-!
# Entries in the order of their keys

Sorting entries by their keys leaves no choice where the keys differ, so the result does not depend
on the order in which the entries came (`sorted_eq_sorted`), and what is filtered out afterwards
need not even agree (`filter_sorted_eq`).
-/

namespace AccountStore

variable {β : Type} {entries others : List (String × β)}

theorem sorted_ordered (entries : List (String × β)) :
    (sorted (fun a b => a.1 ≤ b.1) entries).Pairwise fun a b => a.1 ≤ b.1 := by
  let le : String × β → String × β → Bool := fun a b => a.1 ≤ b.1
  have total (a b : String × β) : le a b = true ∨ le b a = true := by
    simpa [le] using String.le_total a.1 b.1
  have transitive (a b c : String × β) (ab : le a b = true) (bc : le b c = true) : le a c = true :=
    decide_eq_true (String.le_trans (of_decide_eq_true ab) (of_decide_eq_true bc))
  exact (sorted_pairwise total transitive entries).imp of_decide_eq_true

theorem eq_of_ordered (distinct : (entries.map Prod.fst).Nodup)
    (first : entries.Pairwise fun a b => a.1 ≤ b.1) (second : others.Pairwise fun a b => a.1 ≤ b.1)
    (same : entries.Perm others) : entries = others := by
  refine List.Perm.eq_of_pairwise (fun a b memberA memberB ab ba => ?_) first second same
  exact List.inj_on_of_nodup_map distinct memberA (same.mem_iff.2 memberB) (String.le_antisymm ab ba)

theorem sorted_eq_sorted (distinct : (entries.map Prod.fst).Nodup) (same : entries.Perm others) :
    sorted (fun a b => a.1 ≤ b.1) entries = sorted (fun a b => a.1 ≤ b.1) others := by
  have first := sorted_perm (fun a b => a.1 ≤ b.1) entries
  have second := sorted_perm (fun a b => a.1 ≤ b.1) others
  exact eq_of_ordered ((first.map Prod.fst).nodup_iff.2 distinct) (sorted_ordered entries)
    (sorted_ordered others) ((first.trans same).trans second.symm)

theorem filter_sorted_eq {p : String × β → Bool} (distinct : ((entries.filter p).map Prod.fst).Nodup)
    (same : (entries.filter p).Perm (others.filter p)) :
    (sorted (fun a b => a.1 ≤ b.1) entries).filter p =
      (sorted (fun a b => a.1 ≤ b.1) others).filter p := by
  have first := (sorted_perm (fun a b => a.1 ≤ b.1) entries).filter p
  have second := (sorted_perm (fun a b => a.1 ≤ b.1) others).filter p
  exact eq_of_ordered ((first.map Prod.fst).nodup_iff.2 distinct)
    ((sorted_ordered entries).filter p) ((sorted_ordered others).filter p)
    ((first.trans same).trans second.symm)

end AccountStore

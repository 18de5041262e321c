import AccountStore.Proofs.Table.Sound

/-!
# Tables on the way to their indexes

A sound table has all its unique indexes. Before they are created, and after a rollback, some are
missing, and then live rows may share contact details. `Consistent` is what holds of a table with
any of its indexes; lawful statements keep it, and so does a new index where the rows admit it.
-/

namespace AccountStore
open Calendar

namespace Memory.TableState

variable {t : Table} {state after : TableState} {c : Column} {columns : List Column}
  {rows : List Row} {now : Instant} {s : Statement}

structure Consistent (t : Table) (state : TableState) : Prop where
  indexed : state.liveUnique ⊆ t.liveUnique
  typed : ∀ row ∈ state.rows, row.Typed t
  admitted : Admits state.liveUnique state.rows

theorem consistent_empty (indexed : columns ⊆ t.liveUnique) : (empty columns).Consistent t where
  indexed := indexed
  typed _ member := absurd member List.not_mem_nil
  admitted := ⟨.nil, .nil⟩

/-! ## Distinct columns -/

theorem distinctLive_append {more : List Column} :
    DistinctLive (columns ++ more) rows ↔ DistinctLive columns rows ∧ DistinctLive more rows := by
  unfold DistinctLive
  rw [← List.pairwise_and_iff]
  simp only [List.forall_mem_append]

/-! ## Statements and indexes -/

theorem Consistent.changes (consistent : state.Consistent t) (lawful : s.Lawful t)
    (change : state.Changes now s after) : after.Consistent t where
  indexed := change.liveUnique_eq ▸ consistent.indexed
  typed := change.typed lawful consistent.typed
  admitted := change.liveUnique_eq ▸ change.admits

theorem Consistent.distinctLive (consistent : state.Consistent t) (member : c ∈ state.liveUnique) :
    DistinctLive [c] state.rows :=
  consistent.admitted.2.anti (by simpa using member)

theorem Consistent.withIndex (consistent : state.Consistent t) (unique : c ∈ t.liveUnique)
    (distinct : DistinctLive [c] state.rows) :
    Consistent t { state with liveUnique := state.liveUnique ++ [c] } where
  indexed := List.append_subset.2 ⟨consistent.indexed, by simpa using unique⟩
  typed := consistent.typed
  admitted := ⟨consistent.admitted.1, distinctLive_append.2 ⟨consistent.admitted.2, distinct⟩⟩

theorem Consistent.withoutIndexes (consistent : state.Consistent t)
    (fewer : columns ⊆ state.liveUnique) : Consistent t { state with liveUnique := columns } where
  indexed := List.Subset.trans fewer consistent.indexed
  typed := consistent.typed
  admitted := ⟨consistent.admitted.1, consistent.admitted.2.anti fewer⟩

end Memory.TableState
end AccountStore

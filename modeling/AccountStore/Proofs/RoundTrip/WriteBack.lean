import AccountStore.Migration
import AccountStore.Proofs.Account.Revision
import AccountStore.Proofs.Operation.Modification
import AccountStore.Proofs.Operation.Request

/-!
# Writing back what was read

An account does not tell NULL from the zero value of a column. Rows never hold such a value where
NULL may stand (`Row.Typed.zeroFree`), so an update with what was read restores every column.
-/

namespace AccountStore
open Calendar Memory

namespace Memory

/-- Where NULL may stand, no text is there and empty, and no time of update is the epoch. -/
structure Row.ZeroFree (t : Table) (row : Row) : Prop where
  text (d : ColumnDefinition) (member : d ∈ t.definitions) (nullable : d.nullable = true) :
    row d.column ≠ .text (some "")
  updatedAt : row .updatedAt ≠ .timestamp (some .epoch)

end Memory

theorem Value.ofNullableText_ne (s : String) : ofNullableText s ≠ .text (some "") := by
  unfold ofNullableText
  split <;> simp_all

theorem Value.ofNullableTime_ne (time : Instant) :
    ofNullableTime time ≠ .timestamp (some .epoch) := by
  unfold ofNullableTime
  split <;> simp_all

theorem Table.nullable_columns (t : Table) : ∀ d ∈ t.definitions, d.nullable = true →
    d.column ∈ t.columns ∧
      d.column ∈ [Column.birthDate, .startWorkYear, .endWorkYear, .updatedAt, .deletedAt] := by
  cases t <;> decide

theorem Memory.Row.Typed.zeroFree {t : Table} {row : Row} (typed : row.Typed t) :
    row.ZeroFree t where
  text d member nullable := by
    obtain ⟨column, kind⟩ := t.nullable_columns d member nullable
    have holds := typed d.column column
    generalize d.column = c at kind holds
    simp only [List.mem_cons, List.not_mem_nil, or_false] at kind
    rcases kind with rfl | rfl | rfl | rfl | rfl
    case inl | inr.inl | inr.inr.inl =>
      obtain ⟨s, eq⟩ := holds
      exact eq ▸ Value.ofNullableText_ne s
    case inr.inr.inr.inl | inr.inr.inr.inr =>
      obtain ⟨time, eq⟩ := holds
      exact eq ▸ nofun
  updatedAt := by
    obtain ⟨time, eq⟩ := typed .updatedAt (by cases t <;> decide)
    exact eq ▸ Value.ofNullableTime_ne time

section

variable {α : Type} [Account α] [Account.Readable α] {a : α}

theorem Memory.TableState.Sound.execute_writeBack {state : TableState}
    (sound : state.Sound (Account.table α)) (now : Instant) {row : Row} (member : row ∈ state.rows)
    (live : row.isLive = true) (reads : Account.Reads a row) :
    ∃ n, state.execute now (Store.replacement a) = (.ok (n + 1), state) := by
  have matched := Row.satisfiesAll_liveById.2 ⟨reads.id, live⟩
  obtain ⟨i, here⟩ := List.mem_iff_getElem?.1 member
  obtain ⟨bound, there⟩ := List.getElem?_eq_some_iff.1 here
  -- the indexes are asked about the rows that they admit already
  have same : assigned now ((Store.cells (Account.table α).updatable a).map fun c =>
      (c.1, .value c.2)) (Statement.liveById (Account.id a)) state.rows = state.rows := by
    rw [assigned_liveById sound.typed sound.distinctIds here matched]
    change state.rows.set i (row.updated now a) = _
    rw [reads.updated_eq (sound.typed row member), ← there, List.set_getElem_self]
  obtain ⟨n, count⟩ := Nat.exists_eq_succ_of_ne_zero
    (Nat.ne_of_gt (List.countP_pos_iff.2 ⟨row, member, matched⟩))
  refine ⟨n, ?_⟩
  have means : (Store.replacement a).meaning = .update ((Store.cells
      (Account.table α).updatable a).map fun c => (c.1, .value c.2))
      (Statement.liveById (Account.id a)) := rfl
  rw [execute_update_of_admits means (by rw [same]; exact sound.admits), same, count]

/-- Every row is free of zero values, and so an update of a live account with what the store reads
leaves everything as it is. -/
theorem write_back_unchanged {accounts : Accounts} (reachable : Reachable accounts) :
    (∀ t, ∀ row ∈ (accounts.get t).rows, row.ZeroFree t) ∧
    ∀ id, (accounts.get (Account.table α)).HasLive id →
      ∃ a : α, ∀ (timing : Timing) (now later : Instant) (stamp : Stamp),
        (Call.store (.get id)).run (Accounts.driver now) timing stamp accounts =
          (.ok (.account a), accounts) ∧
        (Call.store (.update a)).run (Accounts.driver later) timing stamp accounts =
          (.ok .done, accounts) := by
  have sound := reachable.sound
  refine ⟨fun t row member => ((sound t).typed row member).zeroFree, ?_⟩
  rintro id ⟨row, member, same, live⟩
  obtain ⟨a, reads⟩ : ∃ a : α, Account.Reads a row :=
    Account.Readable.exists_reads ((sound _).typed row member)
  obtain rfl : Account.id a = id := Option.some.inj (Value.text.inj (reads.id.symm.trans same))
  refine ⟨a, fun timing now later stamp => ⟨?_, ?_⟩⟩
  · have inTime : Layer.store.InTime timing := nofun
    exact Request.run_get_of_row sound inTime member live reads
  · obtain ⟨n, made⟩ := (sound _).execute_writeBack later member live reads
    change (StoreCall.update a).program.run _ _ = _
    rw [StoreCall.program_update,
      Program.run_modification_of_made (t := Account.table α) rfl made, Accounts.set_get]

end

/-- An administrator with NULL in three columns, beside a deleted one with the same contact
details. -/
theorem write_back_unchanged_of_admin :
    let first : Admin := { id := "x", phoneNumber := "+1", email := "e", startWorkYear := "2019" }
    let steps : List (Stamp × Step) :=
      [(⟨"", .epoch⟩, .admin (.store (.create first))),
       (⟨"", .epoch⟩, .admin (.store (.delete "x"))),
       (⟨"", .epoch⟩, .admin (.store (.create { first with id := "y" })))]
    let accounts := (runSteps Accounts.driver ⟨0, 30000⟩ steps .empty).2
    let a : Admin := { first with id := "y", ordinal := 2 }
    let run (call : StoreCall Admin) := (Call.store call).run (Accounts.driver .epoch) ⟨0, 30000⟩
      ⟨"", .epoch⟩ accounts
    Reachable accounts ∧ accounts.admins.HasLive "y" ∧
      run (.get "y") = (.ok (.account a), accounts) ∧ run (.update a) = (.ok .done, accounts) := by
  intro first steps accounts a run
  have reachable : Reachable accounts := Reachable.empty.runSteps _ _
  have live : accounts.admins.HasLive "y" := by decide
  obtain ⟨read, same⟩ := (write_back_unchanged (α := Admin) reachable).2 "y" live
  obtain ⟨got, written⟩ := same ⟨0, 30000⟩ .epoch .epoch ⟨"", .epoch⟩
  have computed : (run (.get "y")).1 = .ok (.account a) := by decide +kernel
  have equal : read = a :=
    Answer.account.inj (Except.ok.inj ((congrArg Prod.fst got).symm.trans computed))
  exact ⟨reachable, live, equal ▸ got, equal ▸ written⟩

end AccountStore

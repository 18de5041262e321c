import AccountStore.Proofs.Account.Revision
import AccountStore.Proofs.Operation.Modification
import AccountStore.Proofs.Operation.Run
import Mathlib.Data.List.Nodup

/-!
# Outcomes of updates and deletions

What an update or a deletion answers when it runs alone is read off the table: whether the row is
there, whether it is deleted and, for an update, whether another live row holds one of the contact
details (`verdict`). The unique indexes refuse an update just in this last case
(`Sound.execute_replacement`); the look-up that follows an update of no row sees the table that the
update saw.
-/

namespace AccountStore
open Calendar Memory

/-! ## New contact details -/

section Replacement

variable {α : Type} [Account α]

/-- A live row with another identifier holds one of the contact details of an account. -/
def Memory.TableState.HeldByOther (state : TableState) (a : α) : Prop :=
  ∃ row ∈ state.rows, row.isLive = true ∧ row .id ≠ .text (some (Account.id a)) ∧
    ∃ c ∈ (Account.table α).liveUnique, row c = Account.cell a c

instance (state : TableState) (a : α) : Decidable (state.HeldByOther a) :=
  inferInstanceAs (Decidable (∃ row ∈ state.rows, _))

variable [Account.Lawful α]

/-- What an update makes of a row, as far as the unique indexes see it. -/
theorem Change.rewrite_cells (a : α) (now : Instant) (row : Row) :
    let cells := Store.cells (Account.table α).updatable a
    let after := (Change.replacement (Account.id a) cells).rewrite now row
    after.isLive = row.isLive ∧
      ((row .id = .text (some (Account.id a)) ∧ row.isLive = true ∧
          ∀ c ∈ (Account.table α).liveUnique, after c = Account.cell a c) ∨
        (row.isLive = true → row .id ≠ .text (some (Account.id a))) ∧ after = row) := by
  intro cells after
  by_cases matched : row.satisfiesAll (Statement.liveById (Account.id a)) = true
  · obtain ⟨same, live⟩ := Row.satisfiesAll_liveById.1 matched
    have final : after = row.updated now a := if_pos matched
    rw [final]
    refine ⟨row.isLive_updated now a, Or.inl ⟨same, live, fun c unique => ?_⟩⟩
    have updatable : c ∈ (Account.table α).updatable := by
      revert c
      cases Account.table α <;> decide
    rw [Row.updated, Store.assign_cells updatable, Account.Lawful.stored_of_unique a unique]
  · have final : after = row := if_neg matched
    rw [final]
    exact ⟨rfl, Or.inr ⟨fun live same => matched (Row.satisfiesAll_liveById.2 ⟨same, live⟩), rfl⟩⟩

namespace Memory.TableState

theorem Sound.eq_of_unique {t : Table} {state : TableState} (sound : state.Sound t) {c : Column}
    (unique : c ∈ t.liveUnique) {x y : Row} (hx : x ∈ state.rows) (hy : y ∈ state.rows)
    (xLive : x.isLive = true) (yLive : y.isLive = true) (same : x c = y c) : x = y :=
  List.inj_on_of_nodup_map (sound.nodup_live unique) (List.mem_filter.2 ⟨hx, xLive⟩)
    (List.mem_filter.2 ⟨hy, yLive⟩) same

variable {state : TableState}

/-- The rows of a table after an update, if the indexes admit them. -/
def replaced (state : TableState) (now : Instant) (a : α) : List Row :=
  state.rows.map fun row => (Change.replacement (Account.id a)
    (Store.cells (Account.table α).updatable a)).rewrite now row

theorem Sound.not_heldByOther (sound : state.Sound (Account.table α)) {now : Instant} {a : α}
    (live : state.HasLive (Account.id a))
    (admitted : Admits state.liveUnique (state.replaced now a)) : ¬ state.HeldByOther a := by
  rintro ⟨other, there, otherLive, ne, c, unique, held⟩
  obtain ⟨row, here, same, rowLive⟩ := live
  have lawful := (StoreCall.update a).lawful_change
  have writes : Change.Writes (Account.table α) (StoreCall.update a).change (Store.replacement a) :=
    rfl
  have change :
      state.Changes now (Store.replacement a) { state with rows := state.replaced now a } :=
    .updated rfl admitted ⟨row, here, Row.satisfiesAll_liveById.2 ⟨same, rowLive⟩⟩
  have after := sound.changes (writes.lawful lawful) change
  obtain ⟨rowLater, ⟨_, _, gets⟩ | ⟨unmatched, _⟩⟩ := Change.rewrite_cells a now row
  · obtain ⟨otherLater, ⟨otherSame, _⟩ | ⟨_, stays⟩⟩ := Change.rewrite_cells a now other
    · exact ne otherSame
    · have equal := after.eq_of_unique unique (List.mem_map_of_mem here) (List.mem_map_of_mem there)
        (rowLater.trans rowLive) (otherLater.trans otherLive)
        ((gets c unique).trans (held.symm.trans (congrFun stays.symm c)))
      apply ne
      rw [← Change.rewrite_id lawful now other, ← same, ← Change.rewrite_id lawful now row]
      exact congrFun equal.symm _
  · exact unmatched rowLive same

theorem Sound.admits_of_not_heldByOther (sound : state.Sound (Account.table α)) (now : Instant)
    {a : α} (free : ¬ state.HeldByOther a) : Admits state.liveUnique (state.replaced now a) := by
  have lawful := Store.lawful_replacement a
  rw [sound.indexed]
  refine ⟨?_, ?_⟩
  · unfold DistinctIds replaced
    rw [List.pairwise_map]
    apply sound.distinctIds.imp
    intro x y apart
    rw [Change.rewrite_id lawful, Change.rewrite_id lawful]
    exact apart
  · unfold DistinctLive replaced
    rw [List.pairwise_filter, List.pairwise_map]
    apply (sound.distinctIds.and (List.pairwise_filter.1 sound.distinctLive)).imp_of_mem
    intro x y hx hy ⟨ids, lives⟩ xLive yLive c unique
    have different := (Value.same_eq_false_of_text (sound.typed x hx).id).1 ids
    have unheld : ∀ row ∈ state.rows, row.isLive = true → row .id ≠ .text (some (Account.id a)) →
        row c ≠ Account.cell a c :=
      fun row member live ne held => free ⟨row, member, live, ne, c, unique, held⟩
    obtain ⟨xLater, ⟨xSame, _, gets⟩ | ⟨_, xStays⟩⟩ := Change.rewrite_cells a now x
    -- the two rows have different identifiers, so at most one of them is rewritten
    · obtain ⟨yLater, ⟨ySame, _⟩ | ⟨other, yStays⟩⟩ := Change.rewrite_cells a now y
      · exact absurd (xSame.trans ySame.symm) different
      · rw [yLater] at yLive
        rw [gets c unique, yStays,
          Value.same_eq_false_of_text (Account.Lawful.exists_text a unique)]
        exact (unheld y hy yLive (other yLive)).symm
    · rw [xLater] at xLive
      obtain ⟨yLater, ⟨ySame, _, gets⟩ | ⟨_, yStays⟩⟩ := Change.rewrite_cells a now y
      · rw [xStays, gets c unique, Value.same_eq_false_of_text ((sound.typed x hx).unique unique)]
        exact unheld x hx xLive fun xSame => different (xSame.trans ySame.symm)
      · rw [yLater] at yLive
        rw [xStays, yStays]
        exact lives xLive yLive c unique

end Memory.TableState
end Replacement

/-! ## Verdicts -/

namespace Memory.TableState

variable {t : Table} {state : TableState} {id : String}

/-- The answer about the row with an identifier, where `clash` says that the change, if the row is
live, gives it what another row has. -/
def verdict (state : TableState) (id : String) (clash : Prop) [Decidable clash] (done : α) :
    Except AccountError α :=
  if ¬ state.Has id then .error .notFound
  else if state.HasDeleted id then .error .alreadyDeleted
  else if clash then .error (.conflict "Record")
  else .ok done

variable {clash : Prop} [Decidable clash] {done : α}

theorem verdict_of_not_hasLive (absent : ¬ state.HasLive id) :
    state.verdict id clash done = .error (state.explanation id) := by
  unfold verdict explanation
  by_cases deleted : state.HasDeleted id <;> simp [has_iff, absent, deleted]

theorem Sound.verdict_of_hasLive (sound : state.Sound t) (live : state.HasLive id) :
    state.verdict id clash done = if clash then .error (.conflict "Record") else .ok done := by
  simp [verdict, has_iff, live, sound.not_hasDeleted live]

theorem code_of_verdict {e : AccountError} (failed : state.verdict id clash done = .error e) :
    e.code = "NOT_FOUND" ∨ e.code = "ALREADY_DELETED" ∨ e.code = "CONFLICT" := by
  unfold verdict at failed
  split at failed
  · cases failed
    exact Or.inl rfl
  · split at failed
    · cases failed
      exact Or.inr (Or.inl rfl)
    · split at failed <;> cases failed
      exact Or.inr (Or.inr rfl)

end Memory.TableState

namespace Program

variable {t : Table} {c : Change} {id : String} {s : Statement} {accounts : Accounts}
  {clash : Prop} [Decidable clash]

/-- An update or a deletion that runs alone answers the verdict, and an error changes nothing. -/
theorem run_modification (sound : accounts.Sound) (writes : c.Writes t s)
    (target : c.modified? = some id) (now : Instant) (done : α)
    (clashes : (accounts.get t).HasLive id →
      (((accounts.get t).execute now s).1 = .error TableState.duplicate ↔ clash)) :
    let run := (modification t id s done).run (Accounts.driver now) accounts
    run.1 = (accounts.get t).verdict id clash done ∧ ∀ e, run.1 = .error e → run.2 = accounts := by
  intro run
  rcases writes.execute_cases target (sound t) now with
    ⟨n, after, made, live⟩ | ⟨missed, absent⟩ | ⟨refused, live, _⟩
  · have free : ¬ clash := by
      intro clash
      have refused := (clashes live).2 clash
      rw [made] at refused
      cases refused
    have answers : run = (.ok done, accounts.set t after) :=
      run_modification_of_made writes.table made done
    rw [(sound t).verdict_of_hasLive live, if_neg free, answers]
    refine ⟨rfl, ?_⟩
    intro e failed
    cases failed
  · obtain ⟨rows, looks, explains⟩ := (sound t).query_deletionMarker id
    have answers : run = (.error ((accounts.get t).explanation id), accounts) := by
      show (modification t id s done).run _ _ = _
      simp only [modification, Program.run, Accounts.execute_eq writes.table missed,
        Accounts.set_get, reply, if_true, Accounts.query_eq now rfl looks, ← explains]
      exact congrArg (Prod.mk _) (Accounts.set_get accounts t)
    rw [TableState.verdict_of_not_hasLive absent, answers]
    exact ⟨rfl, fun _ _ => rfl⟩
  · have clash : clash := (clashes live).1 (by rw [refused])
    have answers : run = (.error (.conflict "Record"), accounts) := by
      show (modification t id s done).run _ _ = _
      simp only [modification, Program.run, Accounts.execute_eq writes.table refused,
        Accounts.set_get]
      rfl
    rw [(sound t).verdict_of_hasLive live, if_pos clash, answers]
    exact ⟨rfl, fun _ _ => rfl⟩

end Program

/-! ## Calls on reachable tables -/

section Calls

variable {α : Type} [Account α] [Account.Lawful α] {accounts : Accounts}

theorem Memory.TableState.Sound.execute_replacement {state : TableState}
    (sound : state.Sound (Account.table α)) (now : Instant) {a : α}
    (live : state.HasLive (Account.id a)) :
    (state.execute now (Store.replacement a)).1 = .error duplicate ↔ state.HeldByOther a := by
  by_cases held : state.HeldByOther a
  · have refused : ¬ Admits state.liveUnique (state.replaced now a) :=
      fun admitted => sound.not_heldByOther live admitted held
    rw [execute_update_of_not_admits rfl refused]
    exact iff_of_true rfl held
  · rw [execute_update_of_admits rfl (sound.admits_of_not_heldByOther now held)]
    exact iff_of_false nofun held

theorem Memory.TableState.Sound.execute_softDelete {t : Table} {state : TableState}
    (sound : state.Sound t) (now : Instant) (id : String) :
    (state.execute now (.softDelete t id)).1 ≠ .error duplicate := by
  rw [execute_update_of_admits rfl (sound.admits_deleted now _)]
  exact nofun

/-- An update answers that the row was never stored, that it is deleted, or that another live row
holds one of the contact details, in this order, and a deletion the first two. No error changes
anything. -/
theorem modification_outcome (reachable : Reachable accounts) (timing : Timing) (now : Instant)
    (stamp : Stamp) :
    let table := accounts.get (Account.table α)
    let run (call : StoreCall α) :=
      (Call.store call).run (Accounts.driver now) timing stamp accounts
    let harmless (call : StoreCall α) := ∀ e, (run call).1 = .error e → (run call).2 = accounts ∧
      e.code ≠ "INTERNAL_ERROR" ∧ e.code ≠ "BUILD_ERROR"
    (∀ a, (run (.update a)).1 = table.verdict (Account.id a) (table.HeldByOther a) .done ∧
      harmless (.update a)) ∧
    ∀ id, (run (.delete id)).1 = table.verdict id False .done ∧ harmless (.delete id) := by
  intro table run harmless
  have told : ∀ {id clash} [Decidable clash] {call : StoreCall α},
      ((run call).1 = table.verdict id clash .done ∧
        ∀ e, (run call).1 = .error e → (run call).2 = accounts) →
      (run call).1 = table.verdict id clash .done ∧ harmless call := by
    rintro id clash _ call ⟨answer, unchanged⟩
    refine ⟨answer, fun e failed => ⟨unchanged e failed, ?_⟩⟩
    rw [answer] at failed
    rcases TableState.code_of_verdict failed with code | code | code <;> rw [code] <;> decide
  refine ⟨fun a => told ?_, fun id => told ?_⟩
  · have run_eq :
        run (.update a) = (StoreCall.update a).program.run (Accounts.driver now) accounts := rfl
    rw [run_eq, StoreCall.program_update]
    exact Program.run_modification (c := (StoreCall.update a).change) reachable.sound rfl rfl now
      Answer.done fun live => (reachable.sound _).execute_replacement now live
  · have run_eq :
        run (.delete id) = (StoreCall.delete id).program.run (Accounts.driver now) accounts := rfl
    rw [run_eq, StoreCall.program_delete]
    exact Program.run_modification (c := .deletion id) reachable.sound rfl rfl now Answer.done
      fun _ => iff_of_false ((reachable.sound _).execute_softDelete now id) not_false

/-- A deleted user cannot be given a phone number, whoever holds it; a live one can be given that of
a deleted user, but not that of another live one. -/
theorem modification_outcome_of_users :
    let users : List User :=
      [{ id := "a", phoneNumber := "+1" }, { id := "b", phoneNumber := "+2" },
       { id := "c", phoneNumber := "+3" }]
    let steps : List (Stamp × Step) := users.map fun u => (⟨"", .epoch⟩, .user (.store (.create u)))
    let accounts := (runSteps Accounts.driver ⟨0, 30000⟩
      (steps ++ [(⟨"", .epoch⟩, .user (.store (.delete "a")))]) .empty).2
    let answer (call : StoreCall User) :=
      ((Call.store call).run (Accounts.driver .epoch) ⟨0, 30000⟩ ⟨"", .epoch⟩ accounts).1
    Reachable accounts ∧
      answer (.update { id := "d", phoneNumber := "+2" }) = .error .notFound ∧
      answer (.update { id := "a", phoneNumber := "+2" }) = .error .alreadyDeleted ∧
      answer (.update { id := "b", phoneNumber := "+3" }) = .error (.conflict "Record") ∧
      answer (.update { id := "b", phoneNumber := "+1" }) = .ok .done ∧
      answer (.delete "a") = .error .alreadyDeleted ∧ answer (.delete "b") = .ok .done := by
  intro users steps accounts answer
  have reachable : Reachable accounts := Reachable.empty.runSteps _ _
  obtain ⟨updates, deletions⟩ :=
    modification_outcome (α := User) reachable ⟨0, 30000⟩ .epoch ⟨"", .epoch⟩
  refine ⟨reachable, ?_, ?_, ?_, ?_, ?_, ?_⟩
  · exact (updates { id := "d", phoneNumber := "+2" }).1.trans (by decide)
  · exact (updates { id := "a", phoneNumber := "+2" }).1.trans (by decide)
  · exact (updates { id := "b", phoneNumber := "+3" }).1.trans (by decide)
  · exact (updates { id := "b", phoneNumber := "+1" }).1.trans (by decide)
  · exact (deletions "a").1.trans (by decide)
  · exact (deletions "b").1.trans (by decide)

end Calls
end AccountStore

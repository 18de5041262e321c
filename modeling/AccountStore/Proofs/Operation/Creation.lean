import AccountStore.Proofs.Account.Revision
import AccountStore.Proofs.Deadline
import AccountStore.Proofs.Operation.Request

/-!
# Creations on sound tables

The indexes refuse a new row just if its identifier or one of its contact details is taken
(`Sound.admits_append`). Both kinds of creation answer accordingly, and a service creates an account
as the store does, once it has found the account valid and its guard has found nobody.
-/

namespace AccountStore
open Calendar Memory

section

variable {α : Type} [Account α]

namespace Memory.TableState

variable {state : TableState}

/-- A row has the identifier, or a live one has one of the contact details. -/
def Taken (state : TableState) (a : α) : Prop :=
  state.Has (Account.id a) ∨
    ∃ row ∈ state.live, ∃ c ∈ (Account.table α).liveUnique, row c = Account.cell a c

instance (state : TableState) (a : α) : Decidable (state.Taken a) :=
  inferInstanceAs (Decidable (_ ∨ _))

/-- A live row has what a new account must not share. -/
def Guarded (state : TableState) (a : α) : Prop :=
  ∃ row ∈ state.live, row.matchesContact (Account.predicate (Account.guard a)) = true

instance (state : TableState) (a : α) : Decidable (state.Guarded a) :=
  inferInstanceAs (Decidable (∃ row ∈ state.live, _))

/-- What the creation of an account reports as existing already. -/
def conflict? (state : TableState) (a : α) : Option String :=
  if state.Guarded a then some (Account.subject α)
  else if state.Taken a then some "Record"
  else none

/-- How often the creation of an account waits: before it looks for others and, if there are none,
before it inserts the account. -/
def waits (state : TableState) (a : α) : Nat :=
  if state.Guarded a then 1 else 2

def newRow (state : TableState) (a : α) : Row :=
  Row.ofCells state.next (Store.cells (Account.table α).insertable a)

def adding (state : TableState) (a : α) : TableState :=
  { state with rows := state.rows ++ [state.newRow a], next := state.next + 1 }

variable [Account.Lawful α]

theorem newRow_id (state : TableState) (a : α) :
    state.newRow a .id = .text (some (Account.id a)) :=
  (Store.lawful_insertion a state.next).2

theorem isLive_newRow (state : TableState) (a : α) : (state.newRow a).isLive = true :=
  (Store.new_ofCells state.next a).isLive

theorem newRow_unique (state : TableState) (a : α) {c : Column}
    (unique : c ∈ (Account.table α).liveUnique) : state.newRow a c = Account.cell a c := by
  have insertable : c ∈ (Account.table α).insertable := by
    revert c
    cases Account.table α <;> decide
  rw [newRow, Store.ofCells_cells insertable, Account.Lawful.stored_of_unique a unique]

theorem Sound.distinctIds_append (sound : state.Sound (Account.table α)) (a : α) :
    DistinctIds (state.rows ++ [state.newRow a]) ↔ ¬ state.Has (Account.id a) := by
  unfold DistinctIds Has
  simp only [List.pairwise_append, List.pairwise_singleton, List.mem_singleton, forall_eq, true_and,
    newRow_id, not_exists, not_and]
  constructor
  · intro distinct row member
    exact (Value.same_eq_false_of_text (sound.typed row member).id).1 (distinct.2 row member)
  · intro absent
    refine ⟨sound.distinctIds, fun row member => ?_⟩
    exact (Value.same_eq_false_of_text (sound.typed row member).id).2 (absent row member)

theorem Sound.distinctLive_append (sound : state.Sound (Account.table α)) (a : α) :
    DistinctLive (Account.table α).liveUnique (state.rows ++ [state.newRow a]) ↔
      ∀ row ∈ state.live, ∀ c ∈ (Account.table α).liveUnique, row c ≠ Account.cell a c := by
  have apart : ∀ row ∈ state.live, ∀ c ∈ (Account.table α).liveUnique,
      (row c).same (state.newRow a c) = false ↔ row c ≠ Account.cell a c := by
    intro row member c unique
    have typed := sound.typed row (List.mem_of_mem_filter member)
    rw [newRow_unique state a unique]
    exact Value.same_eq_false_of_text (typed.unique unique)
  unfold DistinctLive
  simp only [List.filter_append, List.filter_singleton, isLive_newRow, cond_true,
    List.pairwise_append, List.pairwise_singleton, List.mem_singleton, forall_eq, true_and]
  constructor
  · intro distinct row member c unique
    exact (apart row member c unique).1 (distinct.2 row member c unique)
  · intro free
    refine ⟨sound.distinctLive, fun row member c unique => ?_⟩
    exact (apart row member c unique).2 (free row member c unique)

theorem Sound.admits_append (sound : state.Sound (Account.table α)) (a : α) :
    Admits state.liveUnique (state.rows ++ [state.newRow a]) ↔ ¬ state.Taken a := by
  rw [sound.indexed, Admits, sound.distinctIds_append, sound.distinctLive_append, Taken, not_or]
  simp only [not_exists, not_and]

theorem Sound.insert_cells (sound : state.Sound (Account.table α)) (a : α) :
    state.insert (Store.cells (Account.table α).insertable a) =
      if state.Taken a then .error duplicate else .ok (state.adding a) := by
  have admits := sound.admits_append a
  unfold newRow at admits
  by_cases taken : state.Taken a
  · rw [if_pos taken]
    exact if_neg (mt admits.1 (not_not_intro taken))
  · rw [if_neg taken]
    exact if_pos (admits.2 taken)

end Memory.TableState

theorem Service.run_check (now : Instant) (stamp : Stamp) (accounts : Accounts) (a : α) :
    (check stamp a).run (Accounts.driver now) accounts =
      (.ok (decide ((accounts.get (Account.table α)).Guarded (Account.assignIdentity stamp a))),
        accounts) := by
  rw [check, Store.run_ifExists]
  congr 2
  rw [Bool.eq_iff_iff, List.any_eq_true, decide_eq_true_iff]
  rfl

namespace ServiceCall

variable {timing : Timing} {stamp : Stamp} {a : α}

theorem refusal?_create (valid : Account.violations (Account.assignIdentity stamp a) = []) :
    (create a).refusal? stamp = none :=
  Service.invalid?_eq_none.2 valid

theorem run_create_of_violations
    (broken : Account.violations (Account.assignIdentity stamp a) ≠ []) (driver : Driver σ)
    (state : σ) : (Call.service (create a)).run driver timing stamp state =
      (.error (.validation (.violations (Account.violations (Account.assignIdentity stamp a)))),
        state) := by
  have refusal : (create a).refusal? stamp = some (.validation (.violations
      (Account.violations (Account.assignIdentity stamp a)))) :=
    Service.invalid?_of_violations broken
  change ((create a).program stamp).runWithin _ _ _ _ _ = _
  rw [program_of_refusal refusal]
  rfl

end ServiceCall

/-! ## Creations by the store -/

variable [Account.Revisable α] {accounts : Accounts}

/-- The account as it reads back from the row that its table gives it. -/
def Memory.Accounts.newest (accounts : Accounts) (a : α) : α :=
  Account.Revisable.asNew (accounts.get (Account.table α)).next (Account.Revisable.asStored a)

def Memory.Accounts.adding (accounts : Accounts) (a : α) : Accounts :=
  accounts.set (Account.table α) ((accounts.get (Account.table α)).adding a)

theorem Store.run_create (sound : accounts.Sound) (now : Instant) (a : α) :
    (create a).run (Accounts.driver now) accounts =
      if (accounts.get (Account.table α)).Taken a then (.error (.conflict "Record"), accounts)
      else (.ok (Account.id a), accounts.adding a) := by
  have inserted := (sound (Account.table α)).insert_cells a
  rw [create_eq]
  by_cases taken : (accounts.get (Account.table α)).Taken a
  · rw [if_pos taken] at inserted ⊢
    simp only [Program.run, Accounts.driver, Accounts.execute, TableState.execute, Statement.table,
      Statement.meaning, inserted, Accounts.set_get]
    rfl
  · rw [if_neg taken] at inserted ⊢
    simp only [Program.run, Accounts.driver, Accounts.execute, TableState.execute, Statement.table,
      Statement.meaning, inserted]
    rfl

theorem Store.run_createAndFetch (sound : accounts.Sound) (now : Instant) (a : α) :
    (createAndFetch a).run (Accounts.driver now) accounts =
      if (accounts.get (Account.table α)).Taken a then (.error (.conflict "Record"), accounts)
      else (.ok (accounts.newest a), accounts.adding a) := by
  have inserted := (sound (Account.table α)).insert_cells a
  rw [createAndFetch_eq]
  by_cases taken : (accounts.get (Account.table α)).Taken a
  · rw [if_pos taken] at inserted ⊢
    simp only [Program.run, Accounts.driver, Accounts.query, TableState.query, Statement.table,
      Statement.meaning, inserted, Accounts.set_get]
    rfl
  · rw [if_neg taken] at inserted ⊢
    have decoded : Account.ofRow? (((accounts.get (Account.table α)).newRow a).project
        (Account.table α) (Account.table α).projection) = some (accounts.newest a) :=
      Account.Readable.ofRow?_of_reads (Account.reads_ofCells _ a)
    unfold TableState.newRow at decoded
    simp only [Program.run, Accounts.driver, Accounts.query, TableState.query, Statement.table,
      Statement.meaning, inserted, Program.reply, List.head?_cons, Program.ofOption, Program.pure,
      Program.bind, Store.ofRow, decoded]
    rfl

theorem Call.run_create (sound : accounts.Sound) (timing : Timing) (now : Instant) (stamp : Stamp)
    (a : α) : (Call.store (.create a)).run (Accounts.driver now) timing stamp accounts =
      if (accounts.get (Account.table α)).Taken a then (.error (.conflict "Record"), accounts)
      else (.ok (.id (Account.id a)), accounts.adding a) := by
  change (Answer.id <$> Store.create a).run _ _ = _
  rw [Program.run_map, Store.run_create sound]
  split <;> rfl

theorem Call.run_createAndFetch (sound : accounts.Sound) (timing : Timing) (now : Instant)
    (stamp : Stamp) (a : α) :
    (Call.store (.createAndFetch a)).run (Accounts.driver now) timing stamp accounts =
      if (accounts.get (Account.table α)).Taken a then (.error (.conflict "Record"), accounts)
      else (.ok (.account (accounts.newest a)), accounts.adding a) := by
  change (Answer.account <$> Store.createAndFetch a).run _ _ = _
  rw [Program.run_map, Store.run_createAndFetch sound]
  split <;> rfl

/-! ## Creations by the service -/

namespace Memory.TableState

theorem Guarded.taken {state : TableState} {a : α} (guarded : state.Guarded a) :
    state.Taken a := by
  obtain ⟨row, member, found⟩ := guarded
  exact Or.inr ⟨row, member, Account.Revisable.exists_of_guard a found⟩

theorem conflict?_eq_none {state : TableState} {a : α} :
    state.conflict? a = none ↔ ¬ state.Taken a := by
  unfold conflict?
  constructor
  · intro free taken
    rw [if_pos taken] at free
    split at free <;> exact absurd free nofun
  · intro free
    rw [if_neg (mt Guarded.taken free), if_neg free]

end Memory.TableState

/-- What the creation of an account answers and leaves if it is in time. -/
def Memory.Accounts.creation (accounts : Accounts) (a : α) :
    Except AccountError (Answer α) × Accounts :=
  match (accounts.get (Account.table α)).conflict? a with
  | some what => (.error (.conflict what), accounts)
  | none => (.ok (.account (accounts.newest a)), accounts.adding a)

namespace ServiceCall

variable {timing : Timing} {stamp : Stamp} {a : α}

theorem run_create (sound : accounts.Sound) (now : Instant)
    (valid : (create a).refusal? stamp = none) :
    ((create a).program stamp).run (Accounts.driver now) accounts =
      accounts.creation (Account.assignIdentity stamp a) := by
  have checked := Service.run_check now stamp accounts a
  have stored := Store.run_createAndFetch sound now (Account.assignIdentity stamp a)
  rw [program_create valid, Program.run_map, Program.run, Program.run_bind, checked]
  unfold Accounts.creation TableState.conflict?
  by_cases guarded : (accounts.get (Account.table α)).Guarded (Account.assignIdentity stamp a)
  · simp only [guarded, decide_true, Service.insertUnless, if_true]
    rfl
  · simp only [guarded, decide_false, Service.insertUnless, Bool.false_eq_true, if_false,
      Program.run, stored]
    split <;> rfl

theorem runWithin_create (sound : accounts.Sound) (timing : Timing) (now : Instant)
    (valid : (create a).refusal? stamp = none) :
    (Call.service (create a)).run (Accounts.driver now) timing stamp accounts =
      if (accounts.get (Account.table α)).waits (Account.assignIdentity stamp a) * timing.pause ≤
          timing.limit then
        accounts.creation (Account.assignIdentity stamp a)
      else (.error (.timedOut (create a).operation), accounts) := by
  have length := length_later_create valid (Accounts.driver now) accounts
  rw [Service.run_check] at length
  have waits : (((create a).program stamp).parts (Accounts.driver now) accounts).later.length =
      (accounts.get (Account.table α)).waits (Account.assignIdentity stamp a) := by
    rw [length, TableState.waits]
    split <;> simp_all
  change ((create a).program stamp).runWithin _ _ _ _ _ = _
  split
  next inTime =>
    rw [Program.runWithin_inTime, run_create sound now valid]
    rwa [waits, Nat.zero_add]
  -- a call that runs out of time has only looked: nothing that it sent changed a table
  next late =>
    have answer : ((Call.service (create a)).run (Accounts.driver now) timing stamp accounts).1 =
        .error (.timedOut (create a).operation) := by
      apply Program.runWithin_timedOut (Nat.zero_le _)
      rw [waits]
      omega
    exact Prod.ext answer (((create a).makes_program stamp).runWithin_error answer)

/-- An account of which nothing is taken is created if it is valid and both waits are in time. -/
theorem run_create_of_free (sound : accounts.Sound) (timing : Timing) (now : Instant)
    (free : ¬ (accounts.get (Account.table α)).Taken (Account.assignIdentity stamp a)) :
    (Call.service (create a)).run (Accounts.driver now) timing stamp accounts =
      if Account.violations (Account.assignIdentity stamp a) ≠ [] then
        (.error (.validation (.violations (Account.violations (Account.assignIdentity stamp a)))),
          accounts)
      else if timing.limit < 2 * timing.pause then
        (.error (.timedOut (create a).operation), accounts)
      else (.ok (.account (accounts.newest (Account.assignIdentity stamp a))),
        accounts.adding (Account.assignIdentity stamp a)) := by
  have waits : (accounts.get (Account.table α)).waits (Account.assignIdentity stamp a) = 2 :=
    if_neg (mt TableState.Guarded.taken free)
  by_cases valid : Account.violations (Account.assignIdentity stamp a) = []
  · rw [if_neg (not_not_intro valid), runWithin_create sound timing now (refusal?_create valid),
      waits, Accounts.creation, TableState.conflict?_eq_none.2 free]
    by_cases late : timing.limit < 2 * timing.pause
    · rw [if_pos late, if_neg (Nat.not_le.2 late)]
    · rw [if_neg late, if_pos (Nat.not_lt.1 late)]
  · rw [if_pos valid, run_create_of_violations valid]

theorem run_create_of_taken (sound : accounts.Sound) (timing : Timing) (now : Instant)
    (taken : (accounts.get (Account.table α)).Taken (Account.assignIdentity stamp a)) :
    ∃ e, ((Call.service (create a)).run (Accounts.driver now) timing stamp accounts).1 =
      .error e := by
  by_cases valid : Account.violations (Account.assignIdentity stamp a) = []
  · rw [runWithin_create sound timing now (refusal?_create valid)]
    split
    · unfold Accounts.creation
      split
      next => exact ⟨_, rfl⟩
      next free => exact absurd taken (TableState.conflict?_eq_none.1 free)
    · exact ⟨_, rfl⟩
  · rw [run_create_of_violations valid]
    exact ⟨_, rfl⟩

end ServiceCall
end
end AccountStore

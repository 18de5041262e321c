import AccountStore.Proofs.Operation.Creation

/-!
# Reading back a new account

A new account is read back with the ordinal of its row and without a time of update, from its row or
from the answer of its creation, until a step that succeeds matches the row. What an account has in
these two places is not written at all.
-/

namespace AccountStore
open Calendar Memory
open Account (DifferAtMost ReadsBack Reads)

/-! ## Accounts that are created alike -/

section

variable {α : Type} [Account α] {a b : α}

namespace Account

theorem DifferAtMost.inserted_eq (same : DifferAtMost [.ordinal, .updatedAt] a b) :
    Store.cells (table α).insertable a = Store.cells (table α).insertable b :=
  same.cells_eq (by cases table α <;> decide) (by cases table α <;> decide)

theorem DifferAtMost.assignIdentity [Revisable α] (same : DifferAtMost [.ordinal, .updatedAt] a b)
    (stamp : Stamp) :
    DifferAtMost [.ordinal, .updatedAt] (assignIdentity stamp a) (assignIdentity stamp b) := by
  apply (differAtMost_asNew_iff 0).1
  rw [← Revisable.assignIdentity_asNew, ← Revisable.assignIdentity_asNew,
    (differAtMost_asNew_iff 0).2 same]

end Account

theorem Store.create_congr [Account.Lawful α] (same : DifferAtMost [.ordinal, .updatedAt] a b) :
    create a = create b := by
  rw [create_eq, create_eq, same.inserted_eq, same.id_eq (by decide)]

theorem Store.createAndFetch_congr (same : DifferAtMost [.ordinal, .updatedAt] a b) :
    createAndFetch a = createAndFetch b := by
  rw [createAndFetch_eq, createAndFetch_eq, same.inserted_eq]

theorem Service.create_congr [Account.Revisable α] (same : DifferAtMost [.ordinal, .updatedAt] a b)
    (stamp : Stamp) : create stamp a = create stamp b := by
  have filled := same.assignIdentity stamp
  have new := (Account.differAtMost_asNew_iff 0).2 filled
  have rules : Account.violations (Account.assignIdentity stamp a) =
      Account.violations (Account.assignIdentity stamp b) := by
    rw [← Account.Revisable.violations_asNew 0, new, Account.Revisable.violations_asNew]
  have guards : Account.guard (Account.assignIdentity stamp a) =
      Account.guard (Account.assignIdentity stamp b) := by
    rw [← Account.Revisable.guard_asNew 0, new, Account.Revisable.guard_asNew]
  simp only [create, checked, rules, guards, Store.createAndFetch_congr filled]

end

/-! ## Rows that no step concerns -/

/-- None of the steps that succeed is an update, a deletion or a change of credentials that matches
the row. -/
def Spare (t : Table) (row : Row) (steps : List (Stamp × Step))
    (answers : List (Except AccountError StepAnswer)) : Prop :=
  ∀ call ∈ steps.zip answers, call.1.2.table = t → (∃ a, call.2 = .ok a) →
    ¬ (call.1.2.change call.1.1).Concerns row

theorem Step.mem_run {t : Table} {row : Row} {accounts : Accounts}
    (member : row ∈ (accounts.get t).rows) (timing : Timing) (now : Instant) (stamp : Stamp)
    (step : Step)
    (spares : step.table = t → (∃ a, (step.run (Accounts.driver now) timing stamp accounts).1 =
      .ok a) → ¬ (step.change stamp).Concerns row) :
    row ∈ ((step.run (Accounts.driver now) timing stamp accounts).2.get t).rows := by
  rcases step.run_cases timing now stamp accounts with ⟨same, _⟩ | ⟨applies, ok⟩
  · rw [same]
    exact member
  · exact applies.mem_of_not_concerns member fun table => spares table ok

theorem runSteps_mem {t : Table} {row : Row} {accounts : Accounts}
    (member : row ∈ (accounts.get t).rows) (timing : Timing) (steps : List (Stamp × Step))
    (spares : Spare t row steps (runSteps Accounts.driver timing steps accounts).1) :
    row ∈ ((runSteps Accounts.driver timing steps accounts).2.get t).rows := by
  -- what spares the row is said of the answers, which the tables at each step decide
  induction steps generalizing accounts with
  | nil => exact member
  | cons head rest ih =>
      obtain ⟨stamp, step⟩ := head
      obtain ⟨first, later⟩ := List.forall_mem_cons.1 spares
      apply ih
      · exact step.mem_run member timing stamp.now stamp first
      · exact later

/-! ## The round trip -/

section

variable {α : Type} [Account α]

theorem Memory.Accounts.newRow_mem (accounts : Accounts) (a : α) :
    (accounts.get (Account.table α)).newRow a ∈
      ((accounts.adding a).get (Account.table α)).rows := by
  rw [adding, get_set]
  exact List.mem_append_right _ List.mem_cons_self

variable [Account.Revisable α]

/-- What is read of an account that the store has created. -/
structure CreationReadsBack (accounts : Accounts) (timing : Timing) (now : Instant) (stamp : Stamp)
    (a : α) : Prop where
  /-- The new row comes last, and nothing else changes. -/
  run : (Call.store (.create a)).run (Accounts.driver now) timing stamp accounts =
    (.ok (.id (Account.id a)), accounts.set (Account.table α)
      { accounts.get (Account.table α) with
        rows := (accounts.get (Account.table α)).rows ++ [(accounts.get (Account.table α)).newRow a]
        next := (accounts.get (Account.table α)).next + 1 })
  /-- If columns read back what they were given, the account is as it was given but for two
  fields. -/
  asGiven (given : ReadsBack a) : accounts.newest a =
    Account.Revisable.asNew (accounts.get (Account.table α)).next a
  get (layer : Layer) (time : Timing) (inTime : layer.InTime time) (later : Instant)
      (other : Stamp) :
    (Request.get (Account.id a)).run layer time later other (accounts.adding a) =
      (.ok (.account (accounts.newest a)), accounts.adding a)
  fetch : (Call.store (.createAndFetch a)).run (Accounts.driver now) timing stamp accounts =
    (.ok (.account (accounts.newest a)), accounts.adding a)
  service (b : α) (filled : Account.assignIdentity stamp b = a) :
    (Call.service (.create b)).run (Accounts.driver now) timing stamp accounts =
      if Account.violations a ≠ [] then
        (.error (.validation (.violations (Account.violations a))), accounts)
      else if timing.limit < 2 * timing.pause then
        (.error (.timedOut (ServiceCall.create b).operation), accounts)
      else (.ok (.account (accounts.newest a)), accounts.adding a)
  kept (steps : List (Stamp × Step)) (time : Timing) :
    let run := runSteps Accounts.driver time steps (accounts.adding a)
    Spare (Account.table α) ((accounts.get (Account.table α)).newRow a) steps run.1 →
      ∀ (layer : Layer) (time : Timing) (later : Instant) (other : Stamp), layer.InTime time →
        (Request.get (Account.id a)).run layer time later other run.2 =
          (.ok (.account (accounts.newest a)), run.2)

variable {accounts : Accounts}

theorem Memory.Accounts.newest_of_readsBack {a : α} (given : ReadsBack a) :
    accounts.newest a = Account.Revisable.asNew (accounts.get (Account.table α)).next a := by
  rw [newest, given.asStored_eq]

theorem Request.run_get_newest {layer : Layer} {timing : Timing} {now : Instant} {stamp : Stamp}
    {later : Accounts} (sound : later.Sound) (inTime : layer.InTime timing) (a : α)
    (there : (accounts.get (Account.table α)).newRow a ∈ (later.get (Account.table α)).rows) :
    (get (Account.id a)).run layer timing now stamp later =
      (.ok (.account (accounts.newest a)), later) := by
  have reads : Reads (accounts.newest a) ((accounts.get (Account.table α)).newRow a) :=
    Account.reads_ofCells _ a
  have same : Account.id (accounts.newest a) = Account.id a := by
    rw [Accounts.newest, Account.id_asNew, Account.id_asStored]
  rw [← same]
  exact run_get_of_row sound inTime there (TableState.isLive_newRow _ a) reads

/-- Until a step that succeeds matches the row of an account that the store has created, it is read
back as it was given, with its ordinal and without a time of update. These two fields of what is
given make no difference. -/
theorem creation_reads_back (reachable : Reachable accounts) (timing : Timing) (now : Instant)
    (stamp : Stamp) (a : α) :
    let run (call : Call α) := call.run (Accounts.driver now) timing stamp accounts
    ((∃ answer, (run (.store (.create a))).1 = .ok answer) →
      CreationReadsBack accounts timing now stamp a) ∧
    ∀ b, DifferAtMost [.ordinal, .updatedAt] a b →
      run (.store (.create a)) = run (.store (.create b)) ∧
        run (.store (.createAndFetch a)) = run (.store (.createAndFetch b)) ∧
        run (.service (.create a)) = run (.service (.create b)) := by
  intro run
  constructor
  · rintro ⟨answer, ok⟩
    have created := Call.run_create reachable.sound timing now stamp a
    have free : ¬ (accounts.get (Account.table α)).Taken a := by
      intro taken
      rw [if_pos taken] at created
      exact absurd (ok.symm.trans (congrArg Prod.fst created)) nofun
    rw [if_neg free] at created
    have sound : (accounts.adding a).Sound := by
      have applies : Change.Applies _ (StoreCall.create a).change now accounts _ :=
        Call.applies_of_ok rfl ok
      rw [created] at applies
      exact applies.sound (StoreCall.lawful_change _) reachable.sound
    exact {
      run := created
      asGiven := Accounts.newest_of_readsBack
      get := fun layer time inTime later other =>
        Request.run_get_newest sound inTime a (accounts.newRow_mem a)
      fetch := by rw [Call.run_createAndFetch reachable.sound, if_neg free]
      service := fun b filled => by
        subst filled
        exact ServiceCall.run_create_of_free reachable.sound timing now free
      kept := fun steps time spares layer time later other inTime =>
        Request.run_get_newest (sound.runSteps _ steps) inTime a
          (runSteps_mem (accounts.newRow_mem a) _ steps spares) }
  · intro b same
    have stored : StoreCall.program (.create a) = StoreCall.program (.create b) :=
      congrArg (Answer.id <$> ·) (Store.create_congr same)
    have fetched : StoreCall.program (.createAndFetch a) = StoreCall.program (.createAndFetch b) :=
      congrArg (Answer.account <$> ·) (Store.createAndFetch_congr same)
    have served : ServiceCall.program stamp (.create a) = ServiceCall.program stamp (.create b) :=
      congrArg (Answer.account <$> ·) (Service.create_congr same stamp)
    simp only [run, Call.run, stored, fetched, served, true_and]
    rfl

end

/-- An administrator that carries an ordinal and a time of update, and whose contact details a
deleted one had. The steps after its creation reset somebody else's password and create a user. -/
theorem creation_reads_back_of_admin :
    let second : Instant := ⟨1, 0, by decide, by decide⟩
    let earlier : List (Stamp × Step) :=
      [(⟨"", .epoch⟩, .admin (.store (.create { id := "x", phoneNumber := "+1" }))),
       (⟨"", .epoch⟩, .admin (.store (.delete "x")))]
    let accounts := (runSteps Accounts.driver ⟨0, 30000⟩ earlier .empty).2
    let a : Admin :=
      { id := "y", ordinal := 9, role := "owner", phoneNumber := "+1", password := "p",
        salary := ⟨0x41200000⟩, endWorkYear := "2020", refreshToken := "t", updatedAt := second }
    let stored : Admin := { a with ordinal := 2, updatedAt := .epoch }
    let run (call : Call Admin) :=
      call.run (Accounts.driver .epoch) ⟨0, 30000⟩ ⟨"n", second⟩ accounts
    let later : List (Stamp × Step) :=
      [(⟨"", second⟩, .admin (.store (.changePassword ⟨"+2", "e"⟩ "q"))),
       (⟨"", second⟩, .user (.store (.create { id := "y", phoneNumber := "+1" })))]
    let final := (runSteps Accounts.driver ⟨0, 30000⟩ later (accounts.adding a)).2
    ReadsBack a ∧ (run (.store (.create a))).1 = .ok (.id "y") ∧
      run (.store (.createAndFetch a)) = (.ok (.account stored), accounts.adding a) ∧
      run (.store (.createAndFetch a)) = run (.store (.createAndFetch stored)) ∧
      (Request.get "y").run .store ⟨0, 30000⟩ .epoch ⟨"", .epoch⟩ final =
        (.ok (.account stored), final) := by
  intro second earlier accounts a stored run later final
  have reachable : Reachable accounts := Reachable.empty.runSteps _ _
  obtain ⟨reads, alike⟩ :=
    creation_reads_back reachable ⟨0, 30000⟩ .epoch ⟨"n", second⟩ a
  have created := reads ⟨_, rfl⟩
  have given : ReadsBack a := by
    unfold ReadsBack
    decide
  have newest : accounts.newest a = stored := created.asGiven given
  have same : DifferAtMost [.ordinal, .updatedAt] a stored := by
    unfold DifferAtMost
    decide
  have spares : Spare .admins ((accounts.get .admins).newRow a) later
      (runSteps Accounts.driver ⟨0, 30000⟩ later (accounts.adding a)).1 := by
    refine List.forall_mem_cons.2 ⟨?_, List.forall_mem_singleton.2 ?_⟩
    · exact fun _ _ => by decide
    · exact fun other => absurd other (by decide)
  refine ⟨given, congrArg Prod.fst created.run, newest ▸ created.fetch, (alike stored same).2.1, ?_⟩
  exact newest ▸ created.kept later ⟨0, 30000⟩ spares .store ⟨0, 30000⟩ .epoch ⟨"", .epoch⟩ nofun

end AccountStore

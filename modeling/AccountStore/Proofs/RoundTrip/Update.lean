import AccountStore.Proofs.Account.Revision
import AccountStore.Proofs.Deadline
import AccountStore.Proofs.Operation.Request

/-!
# Reading back an updated account

An update that succeeds has changed one live row, which reads as what was written with what updates
leave alone: the ordinal, the time of creation and the refresh token of the account that was there.
The store writes the account that it is given, the service gives it the time of the update first.
-/

namespace AccountStore
open Calendar Memory
open Account (DifferAtMost ReadsBack Reads)
open Account.Revisable (asStored replacing)

section

variable {α : Type} [Account α] {a b : α}

/-! ## Accounts that are written alike -/

namespace Layer

def updating : Layer → α → Call α
  | store, a => .store (.update a)
  | service, a => .service (.update a)

def written (stamp : Stamp) : Layer → α → α
  | store, a => a
  | service, a => Account.touch stamp.now a

/-- What makes no difference in an account that updates another. -/
def ignored : Layer → List Column
  | store => [.ordinal, .createdAt, .refreshToken]
  | service => [.ordinal, .createdAt, .refreshToken, .updatedAt]

end Layer

theorem Store.update_congr [Account.Lawful α]
    (same : DifferAtMost [.ordinal, .createdAt, .refreshToken] a b) : update a = update b := by
  have cells : cells (Account.table α).updatable a = cells (Account.table α).updatable b :=
    same.cells_eq (by cases Account.table α <;> decide) (by cases Account.table α <;> decide)
  rw [update_eq, update_eq, cells, same.id_eq (by decide)]

theorem Service.update_congr [Account.Revisable α]
    (same : DifferAtMost [.ordinal, .createdAt, .refreshToken, .updatedAt] a b) (stamp : Stamp) :
    update stamp a = update stamp b := by
  have touched := same.touch stamp.now
  have rules : Account.violations (Account.touch stamp.now a) =
      Account.violations (Account.touch stamp.now b) := by
    rw [← Account.Revisable.violations_replacing a, touched.replacing_eq,
      Account.Revisable.violations_replacing]
  simp only [update, checked, rules, Store.update_congr touched]

variable [Account.Revisable α]

theorem Layer.updating_congr {layer : Layer} (same : DifferAtMost layer.ignored a b)
    (driver : Driver σ) (timing : Timing) (stamp : Stamp) (state : σ) :
    (layer.updating a).run driver timing stamp state =
      (layer.updating b).run driver timing stamp state := by
  cases layer with
  | store =>
      have programs : (StoreCall.update a).program = (StoreCall.update b).program :=
        congrArg ((fun _ => Answer.done) <$> ·) (Store.update_congr same)
      simp only [updating, Call.run, programs]
  | service =>
      have programs : (ServiceCall.update a).program stamp = (ServiceCall.update b).program stamp :=
        congrArg ((fun _ => Answer.done) <$> ·) (Service.update_congr same stamp)
      simp only [updating, Call.run, programs]
      rfl

theorem Layer.id_written (layer : Layer) (stamp : Stamp) (a : α) :
    Account.id (layer.written stamp a) = Account.id a := by
  cases layer with
  | store => rfl
  | service => exact Account.id_touch stamp.now a

/-! ## The round trip -/

/-- What is read under an identifier once `new` has been written over `old`. -/
structure UpdateReadsBack (before after : Accounts) (id : String) (old new : α) : Prop where
  was (layer : Layer) (timing : Timing) (now : Instant) (stamp : Stamp)
      (inTime : layer.InTime timing) :
    (Request.get id).run layer timing now stamp before = (.ok (.account old), before)
  get (layer : Layer) (timing : Timing) (now : Instant) (stamp : Stamp)
      (inTime : layer.InTime timing) :
    (Request.get id).run layer timing now stamp after =
      (.ok (.account (replacing old (asStored new))), after)
  /-- If columns read back what they were given, that is what is stored. -/
  asGiven (given : ReadsBack new) : asStored new = new
  /-- One row is another one, and it is still live. -/
  rows : ∃ i row updated, (before.get (Account.table α)).rows[i]? = some row ∧
    row.isLive = true ∧ Reads old row ∧ updated.isLive = true ∧
    Reads (replacing old (asStored new)) updated ∧
    after = before.set (Account.table α) { before.get (Account.table α) with
      rows := (before.get (Account.table α)).rows.set i updated }

theorem Change.Applies.updateReadsBack {before after : Accounts} (sound : before.Sound)
    {now : Instant} {new : α}
    (applies : (StoreCall.update new).change.Applies (Account.table α) now before after) :
    ∃ old, UpdateReadsBack before after (Account.id new) old new := by
  have soundAfter := applies.sound (StoreCall.lawful_change _) sound
  obtain ⟨_, i, row, writes, here, same, live, final⟩ :=
    applies.of_modified? rfl (sound _).typed (sound _).distinctIds
  obtain ⟨-, rfl, -⟩ := Statement.update.inj writes
  have member := List.mem_of_getElem? here
  obtain ⟨old, reads⟩ : ∃ old : α, Account.Reads old row :=
    Account.Readable.exists_reads ((sound _).typed row member)
  have ids : Account.id old = Account.id new :=
    Option.some.inj (Value.text.inj (reads.id.symm.trans same))
  have liveAfter := (row.isLive_updated now new).trans live
  have readsAfter := reads.updated ids now
  have there : row.updated now new ∈ (after.get (Account.table α)).rows := by
    rw [final, Accounts.get_set]
    exact List.mem_set (List.getElem?_eq_some_iff.1 here).1 _
  refine ⟨old, ⟨?_, ?_, ReadsBack.asStored_eq, i, row, _, here, live, reads, liveAfter, readsAfter,
    final⟩⟩
  · intro layer timing now stamp inTime
    rw [← ids]
    exact Request.run_get_of_row sound inTime member live reads
  · intro layer timing now stamp inTime
    have ids : Account.id (replacing old (asStored new)) = Account.id new := by simp
    rw [← ids]
    exact Request.run_get_of_row soundAfter inTime there liveAfter readsAfter

/-- After an update that succeeds, one live row is another live row, and it is read back as what the
layer has written, with what updates leave alone as it was. What updates ignore makes no
difference. -/
theorem update_reads_back {accounts : Accounts} (reachable : Reachable accounts) (timing : Timing)
    (now : Instant) (stamp : Stamp) (layer : Layer) (a : α) :
    let run (a : α) := (layer.updating a).run (Accounts.driver now) timing stamp accounts
    (∀ answer, (run a).1 = .ok answer →
      ∃ old, UpdateReadsBack accounts (run a).2 (Account.id a) old (layer.written stamp a)) ∧
    ∀ b, DifferAtMost layer.ignored a b → run a = run b := by
  intro run
  constructor
  · intro answer ok
    have change : (layer.updating a).change stamp =
        (StoreCall.update (layer.written stamp a)).change := by
      cases layer <;> rfl
    have applies := Call.applies_of_ok (by rw [change]; rfl) ok
    rw [change] at applies
    rw [← layer.id_written stamp a]
    exact applies.updateReadsBack reachable.sound
  · intro b same
    exact layer.updating_congr same _ timing stamp accounts

end

/-- The service updates a user that carries another ordinal and another refresh token than its row,
where a row was deleted. -/
theorem update_reads_back_of_user :
    let second : Instant := ⟨1, 0, by decide, by decide⟩
    let earlier : List (Stamp × Step) :=
      [(⟨"", .epoch⟩, .user (.store (.create { id := "x", phoneNumber := "+2" }))),
       (⟨"", .epoch⟩, .user (.store (.delete "x"))),
       (⟨"", .epoch⟩, .user (.store (.create
         { id := "y", phoneNumber := "+1", birthDate := "1990-01-01", refreshToken := "t" })))]
    let accounts := (runSteps Accounts.driver ⟨0, 30000⟩ earlier .empty).2
    let u : User := { id := "y", ordinal := 9, firstName := "Y", phoneNumber := "+2", password := "p",
                      refreshToken := "other", createdAt := second }
    let stored : User := { u with ordinal := 2, refreshToken := "t", createdAt := .epoch,
                                  updatedAt := second }
    let run (u : User) :=
      (Layer.service.updating u).run (Accounts.driver .epoch) ⟨0, 30000⟩ ⟨"", second⟩ accounts
    Reachable accounts ∧ (run u).1 = .ok .done ∧
      (Request.get "y").run .store ⟨0, 30000⟩ .epoch ⟨"", .epoch⟩ (run u).2 =
        (.ok (.account stored), (run u).2) ∧
      run u = run { u with ordinal := 0, refreshToken := "", createdAt := .epoch } := by
  intro second earlier accounts u stored run
  have reachable : Reachable accounts := Reachable.empty.runSteps _ _
  obtain ⟨reads, alike⟩ :=
    update_reads_back reachable ⟨0, 30000⟩ .epoch ⟨"", second⟩ .service u
  have ok : (run u).1 = .ok .done := by decide
  obtain ⟨old, back⟩ := reads .done ok
  have was := congrArg Prod.fst (back.was .store ⟨0, 30000⟩ .epoch ⟨"", .epoch⟩ nofun)
  obtain rfl : old = { id := "y", ordinal := 2, phoneNumber := "+1", birthDate := "1990-01-01",
                       refreshToken := "t" } :=
    Answer.account.inj (Except.ok.inj was.symm)
  have same : DifferAtMost Layer.service.ignored u
      { u with ordinal := 0, refreshToken := "", createdAt := .epoch } := by
    unfold DifferAtMost
    decide
  exact ⟨reachable, ok, back.get .store ⟨0, 30000⟩ .epoch ⟨"", .epoch⟩ nofun, alike _ same⟩

end AccountStore

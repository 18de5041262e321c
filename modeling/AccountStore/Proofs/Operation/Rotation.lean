import AccountStore.Proofs.Operation.Parts
import AccountStore.Proofs.Operation.Run
import AccountStore.Proofs.Table.Edit

/-!
# Rotations of credentials

A password or a refresh token is replaced in the live rows that satisfy a condition, by one
statement that the indexes never refuse. The call answers whether there was such a row.
-/

namespace AccountStore
open Calendar Memory

/-- A new credential for the live rows that satisfy a condition. -/
inductive Rotation where
  | password (predicate : ContactPredicate) (new : String)
  | refreshToken (id token : String)

namespace Rotation

def column : Rotation → Column
  | password .. => .password
  | refreshToken .. => .refreshToken

def secret : Rotation → String
  | password _ new => new
  | refreshToken _ token => token

def condition : Rotation → Condition
  | password predicate _ => .contact predicate
  | refreshToken id _ => .equals .id (.text (some id))

end Rotation

def Change.rotation? : Change → Option Rotation
  | .password predicate new => some (.password predicate new)
  | .refreshToken id token => some (.refreshToken id token)
  | _ => none

namespace Rotation

def edit (r : Rotation) (now : Instant) : Edit where
  now
  assignments := [(r.column, .value (.text (some r.secret)))]
  conditions := [r.condition, .live]

def statement (t : Table) : Rotation → Statement
  | password predicate new => .setPassword t predicate new
  | refreshToken id token => .setRefreshToken t id token

def Hits (r : Rotation) (row : Row) : Prop :=
  row.satisfiesAll [r.condition, .live] = true

instance (r : Rotation) : DecidablePred r.Hits :=
  fun row => inferInstanceAs (Decidable (row.satisfiesAll [r.condition, .live] = true))

variable {r : Rotation} {c : Change} {t : Table} {now : Instant}

theorem table_statement (r : Rotation) (t : Table) : (r.statement t).table = t := by
  cases r <;> rfl

theorem meaning_statement (r : Rotation) (t : Table) (now : Instant) :
    (r.statement t).meaning = .update (r.edit now).assignments (r.edit now).conditions := by
  cases r <;> rfl

theorem apply_edit (r : Rotation) (now : Instant) (row : Row) :
    (r.edit now).apply row =
      if r.Hits row then Function.update row r.column (.text (some r.secret)) else row := by
  unfold Edit.apply edit
  rw [Row.assign_single]
  rfl

theorem writes_edit {column : Column} : (r.edit now).Writes column ↔ column = r.column := by
  simp [Edit.Writes, edit, eq_comm]

theorem reads_edit {column : Column} :
    (r.edit now).Reads column ↔ column ∈ r.condition.columns ∨ column = .deletedAt := by
  simp [Edit.Reads, edit, Condition.columns]

theorem spares_edit (r : Rotation) (t : Table) (now : Instant) :
    (r.edit now).Spares t.liveUnique := by
  intro column member written
  rw [writes_edit] at written
  subst written
  revert member
  cases r <;> cases t <;> simp [Rotation.column, Table.liveUnique]

theorem writes_iff (rotation : c.rotation? = some r) {s : Statement} :
    c.Writes t s ↔ s = r.statement t := by
  cases c <;> cases rotation <;> rfl

theorem execute (r : Rotation) {accounts : Accounts} (sound : accounts.Sound) (t : Table)
    (now : Instant) :
    (Accounts.driver now).execute (r.statement t) accounts =
      (.ok ((accounts.get t).rows.countP (Row.satisfiesAll [r.condition, .live])),
        accounts.edited t (r.edit now)) :=
  Accounts.execute_eq (r.table_statement t)
    ((sound t).execute_edit (r.spares_edit t now) (r.meaning_statement t now))

end Rotation

/-! ## Programs -/

namespace Program

/-- Sends a statement and answers whether it affected a row. -/
def rotating (s : Statement) (answer : Bool → α) : Program α :=
  .execute s (reply fun n => .done (.ok (answer (decide (0 < n)))))

/-- The program rotates a credential, or waits before it does. -/
def Rotates (s : Statement) (answer : Bool → α) (p : Program α) : Prop :=
  p = rotating s answer ∨ p = .pause (rotating s answer)

variable {s : Statement} {answer : Bool → α} {p : Program α}

theorem map_rotating (f : α → β) (s : Statement) (answer : Bool → α) :
    f <$> rotating s answer = rotating s fun b => f (answer b) :=
  map_execute _ _ _

theorem Rotates.map (rotates : p.Rotates s answer) (f : α → β) :
    (f <$> p).Rotates s (fun b => f (answer b)) := by
  rcases rotates with rfl | rfl
  · exact Or.inl (map_rotating f s answer)
  · exact Or.inr (congrArg pause (map_rotating f s answer))

theorem untimed_rotating (s : Statement) (answer : Bool → α) : (rotating s answer).Untimed := by
  have direct : (rotating s answer).Direct AccountError.OfStore :=
    Direct.reply AccountError.ofStore_ofDriver fun n => .pure (answer (decide (0 < n)))
  exact direct.untimed AccountError.not_ofStore_timedOut

theorem run_rotating (r : Rotation) {accounts : Accounts} (sound : accounts.Sound) (t : Table)
    (now : Instant) :
    (rotating (r.statement t) answer).run (Accounts.driver now) accounts =
      (.ok (answer (decide (∃ row ∈ (accounts.get t).rows, r.Hits row))),
        accounts.edited t (r.edit now)) := by
  have hit : 0 < (accounts.get t).rows.countP (Row.satisfiesAll [r.condition, .live]) ↔
      ∃ row ∈ (accounts.get t).rows, r.Hits row := List.countP_pos_iff
  simp only [rotating, run, r.execute sound, reply, hit]

theorem runWithin_rotating (s : Statement) (answer : Bool → α) (driver : Driver Accounts)
    (timing : Timing) (operation : String) (elapsed : Nat) (accounts : Accounts) :
    (rotating s answer).runWithin driver timing operation elapsed accounts =
      (rotating s answer).run driver accounts := by
  simp only [rotating, Program.runWithin, run]
  cases (driver.execute s accounts).1 <;> rfl

/-- Alone the program rotates the credential, or it is late and does nothing. -/
theorem Rotates.runWithin (rotates : p.Rotates s answer) (timing : Timing) (operation : String) :
    (∀ (driver : Driver Accounts) accounts, p.runWithin driver timing operation 0 accounts =
        (.error (.timedOut operation), accounts)) ∨
      ∀ (driver : Driver Accounts) accounts, p.runWithin driver timing operation 0 accounts =
        (rotating s answer).run driver accounts := by
  have untimed : (rotating s answer).Untimed := untimed_rotating s answer
  rcases rotates with rfl | rfl
  · exact Or.inr fun driver accounts => runWithin_rotating _ _ driver timing operation 0 accounts
  · by_cases late : timing.limit < timing.pause
    · refine Or.inl fun driver accounts => ?_
      rw [untimed.runWithin_pause, if_pos late]
    · refine Or.inr fun driver accounts => ?_
      rw [untimed.runWithin_pause, if_neg late]

theorem rotating_becomes {operation : String} {own : List Exchange} {q : Program α}
    (becomes : (rotating s answer).Becomes operation own q) :
    (own = [] ∧ q = rotating s answer) ∨
      ∃ now accounts u, own = [u] ∧ (rotating s answer).exchange? now accounts = some (u, q) := by
  cases becomes with
  | refl => exact Or.inl ⟨rfl, rfl⟩
  | @exchange now accounts _ next _ u own sent rest =>
      -- it is done after its statement, whatever the answer
      have ended : ∃ r, next = .done r := by
        have next := congrArg (Option.map Prod.snd) sent
        simp only [rotating, exchange?, Option.map_some, Option.some.injEq] at next
        rw [← next]
        cases ((Accounts.driver now).execute s accounts).1 <;> exact ⟨_, rfl⟩
      obtain ⟨r, rfl⟩ := ended
      obtain ⟨rfl, rfl⟩ := rest.of_done
      exact Or.inr ⟨now, accounts, u, rfl, sent⟩

/-- Among others the program rotates the credential when its turn comes, or it is late. -/
theorem Rotates.becomes {r : Rotation} {t : Table}
    (rotates : p.Rotates (r.statement t) answer) {operation : String} {own : List Exchange}
    {q : Program α} (becomes : p.Becomes operation own q) {result : Except AccountError α}
    (answered : q.answer? = some result) (sound : ∀ u ∈ own, u.before.Sound) :
    result = .error (.timedOut operation) ∨
      ∃ u, own = [u] ∧
        u.after = u.before.edited t (r.edit u.now) ∧
        result = .ok (answer (decide (∃ row ∈ (u.before.get t).rows, r.Hits row))) := by
  obtain rfl := answer?_eq_some.1 answered
  have inTime : (rotating (r.statement t) answer).Becomes operation own (.done result) →
      ∃ u, own = [u] ∧
        u.after = u.before.edited t (r.edit u.now) ∧
        result = .ok (answer (decide (∃ row ∈ (u.before.get t).rows, r.Hits row))) := by
    intro becomes
    rcases rotating_becomes becomes with ⟨_, unfinished⟩ | ⟨now, accounts, u, rfl, sent⟩
    · exact absurd unfinished nofun
    · obtain ⟨rfl, rfl⟩ := before_of_exchange? sent
      -- what it has sent and received is what it would have alone
      have alone := @runWithin_of_exchange? _ _ _ ⟨0, 0⟩ operation 0 _ _ _ sent
      rw [runWithin_rotating, run_rotating r (sound u List.mem_cons_self)] at alone
      exact ⟨u, rfl, (congrArg Prod.snd alone).symm, (congrArg Prod.fst alone).symm⟩
  rcases rotates with rfl | rfl
  · exact Or.inr (inTime becomes)
  · cases becomes with
    | resume rest => exact Or.inr (inTime rest)
    | expire => exact Or.inl rfl
    | exchange _ _ sent => exact absurd sent nofun

end Program

/-! ## Calls -/

section Calls

variable {α : Type} [Account α] {stamp : Stamp} {r : Rotation}

theorem StoreCall.program_of_rotation {call : StoreCall α}
    (rotation : call.change.rotation? = some r) :
    call.program = .rotating (r.statement (Account.table α)) .truth := by
  cases call <;> cases rotation
  · exact (congrArg (Answer.truth <$> ·) (Store.changePassword_eq _ _ _)).trans
      (Program.map_execute _ _ _)
  · exact (congrArg (Answer.truth <$> ·) (Store.updateRefreshToken_eq _ _ _)).trans
      (Program.map_execute _ _ _)

theorem Call.rotates_program {call : Call α} (rotation : (call.change stamp).rotation? = some r) :
    (call.program stamp).Rotates (r.statement (Account.table α)) .truth := by
  cases call with
  | store call =>
      exact Or.inl (StoreCall.program_of_rotation rotation)
  | service call =>
      cases call <;> cases rotation <;>
        exact Or.inr (congrArg Program.pause (StoreCall.program_of_rotation rfl))

end Calls

/-- The answer of a step that only tells whether something is so. -/
def StepAnswer.truth : Table → Bool → StepAnswer
  | .users, b => .user (.truth b)
  | .admins, b => .admin (.truth b)

theorem Step.rotates_program {stamp : Stamp} {r : Rotation} {step : Step}
    (rotation : (step.change stamp).rotation? = some r) :
    (step.program stamp).Rotates (r.statement step.table) (.truth step.table) := by
  cases step with
  | user call => exact (Call.rotates_program rotation).map _
  | admin call => exact (Call.rotates_program rotation).map _

end AccountStore

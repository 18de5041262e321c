import AccountStore.Proofs.History
import AccountStore.Proofs.Operation.Creation

/-!
# Outcomes of creations

What a service answers to the creation of an account is read off the account and its table
(`CreationOutcome`). A user stands in the way with its phone number, then with its identifier. An
administrator stands in the way with both contact details at once, then with its identifier or one
of them. Deleted accounts keep their identifiers and give up the rest.
-/

namespace AccountStore
open Calendar Memory

/-! ## What stands in the way -/

/-- A live row holds a text. -/
def Memory.TableState.LiveHolds (state : TableState) (c : Column) (s : String) : Prop :=
  ∃ row ∈ state.rows, row.isLive = true ∧ row c = .text (some s)

instance (state : TableState) (c : Column) (s : String) : Decidable (state.LiveHolds c s) :=
  inferInstanceAs (Decidable (∃ row ∈ state.rows, _))

/-- What exists already, if a user cannot be created. -/
def User.conflict? (users : TableState) (u : User) : Option String :=
  if users.LiveHolds .phoneNumber u.phoneNumber then some "Phone number"
  else if users.Has u.id then some "Record"
  else none

/-- What exists already, if an administrator cannot be created. The two contact details may be those
of different administrators. -/
def Admin.conflict? (admins : TableState) (a : Admin) : Option String :=
  if ∃ row ∈ admins.rows, row.isLive = true ∧ row .phoneNumber = .text (some a.phoneNumber) ∧
      row .email = .text (some a.email) then some "Admin"
  else if admins.Has a.id ∨ admins.LiveHolds .phoneNumber a.phoneNumber ∨
      admins.LiveHolds .email a.email then some "Record"
  else none

namespace Memory.TableState

variable {state : TableState}

theorem mem_live {row : Row} : row ∈ state.live ↔ row ∈ state.rows ∧ row.isLive = true :=
  List.mem_filter

theorem guarded_user {u : User} :
    state.Guarded u ↔ state.LiveHolds .phoneNumber u.phoneNumber := by
  simp only [Guarded, LiveHolds, mem_live, User.matches_guard, and_assoc]

theorem guarded_admin {a : Admin} : state.Guarded a ↔ ∃ row ∈ state.rows, row.isLive = true ∧
    row .phoneNumber = .text (some a.phoneNumber) ∧ row .email = .text (some a.email) := by
  simp only [Guarded, mem_live, Admin.matches_guard, and_assoc]

theorem taken_user {u : User} :
    state.Taken u ↔ state.Has u.id ∨ state.LiveHolds .phoneNumber u.phoneNumber := by
  simp only [Taken, LiveHolds, mem_live, Account.table, Table.liveUnique, List.mem_singleton,
    exists_eq_left, and_assoc]
  rfl

theorem taken_admin {a : Admin} : state.Taken a ↔ state.Has a.id ∨
    state.LiveHolds .phoneNumber a.phoneNumber ∨ state.LiveHolds .email a.email := by
  simp only [Taken, LiveHolds, mem_live, Account.table, Table.liveUnique, List.mem_cons,
    List.not_mem_nil, or_false, exists_eq_or_imp, exists_eq_left, and_assoc, and_or_left,
    exists_or]
  rfl

theorem conflict?_user (u : User) : state.conflict? u = u.conflict? state := by
  unfold conflict? User.conflict?
  simp only [guarded_user, taken_user]
  by_cases held : state.LiveHolds .phoneNumber u.phoneNumber
  · simp only [held, if_true]
    rfl
  · simp only [held, or_false, if_false]

theorem conflict?_admin (a : Admin) : state.conflict? a = a.conflict? state := by
  unfold conflict? Admin.conflict?
  simp only [guarded_admin, taken_admin]
  rfl

end Memory.TableState

/-! ## The outcome -/

section

variable {α : Type} [Account α]

/-- A deletion makes way for an account that shares contact details with nobody else. -/
theorem Change.Applies.not_taken {before after : Accounts} {id : String} {now : Instant} {b : α}
    (applies : (Change.deletion id).Applies (Account.table α) now before after)
    (new : ¬ (before.get (Account.table α)).Has (Account.id b))
    (only : ∀ row ∈ (before.get (Account.table α)).live, ∀ c ∈ (Account.table α).liveUnique,
      row c = Account.cell b c → row .id = .text (some id)) :
    ¬ (after.get (Account.table α)).Taken b := by
  rintro (present | ⟨row, member, c, unique, same⟩)
  -- only an insertion brings an identifier into a table
  · obtain ⟨_, cells, insertion⟩ :=
      applies.begins_has (t := Account.table α) (c := .deletion id) trivial new present
    exact absurd insertion nofun
  -- what is live after the deletion was live before and has another identifier
  · obtain ⟨there, live⟩ := TableState.mem_live.1 member
    obtain ⟨old, other⟩ := applies.live_of_deletion there live
    exact other (only row (TableState.mem_live.2 ⟨old, live⟩) c unique same)

variable [Account.Revisable α]

/-- What the service makes of a creation: `b` is `a` with what was empty filled in. -/
structure CreationOutcome (conflict? : TableState → α → Option String) (accounts : Accounts)
    (timing : Timing) (now : Instant) (stamp : Stamp) (a b : α) : Prop where
  /-- Whatever answers statements, it is sent none. -/
  invalid (broken : Account.violations b ≠ []) {σ : Type} (driver : Driver σ) (state : σ) :
    (Call.service (.create a)).run driver timing stamp state =
      (.error (.validation (.violations (Account.violations b))), state)
  refused (valid : Account.violations b = [])
      (inTime : (accounts.get (Account.table α)).waits b * timing.pause ≤ timing.limit)
      (what : String) (present : conflict? (accounts.get (Account.table α)) b = some what) :
    (Call.service (.create a)).run (Accounts.driver now) timing stamp accounts =
      (.error (.conflict what), accounts)
  /-- The new row comes last in its table, and the account is answered as it reads back. -/
  created (valid : Account.violations b = [])
      (inTime : (accounts.get (Account.table α)).waits b * timing.pause ≤ timing.limit)
      (free : conflict? (accounts.get (Account.table α)) b = none) :
    (Call.service (.create a)).run (Accounts.driver now) timing stamp accounts =
      (.ok (.account (accounts.newest b)), accounts.adding b)
  late (valid : Account.violations b = [])
      (late : timing.limit < (accounts.get (Account.table α)).waits b * timing.pause) :
    (Call.service (.create a)).run (Accounts.driver now) timing stamp accounts =
      (.error (.timedOut (ServiceCall.create a).operation), accounts)
  unchanged (e : AccountError)
      (failed : ((Call.service (.create a)).run (Accounts.driver now) timing stamp accounts).1 =
        .error e) :
    ((Call.service (.create a)).run (Accounts.driver now) timing stamp accounts).2 = accounts
  /-- If no live account but one shares a contact detail, its deletion makes way. -/
  freed (valid : Account.violations b = []) (inTime : 2 * timing.pause ≤ timing.limit)
      (new : ¬ (accounts.get (Account.table α)).Has (Account.id b)) (id : String)
      (only : ∀ row ∈ (accounts.get (Account.table α)).live, ∀ c ∈ (Account.table α).liveUnique,
        row c = Account.cell b c → row .id = .text (some id))
      (call : Call α) (earlier : Timing) (other : Stamp)
      (deletion : call.change other = .deletion id) :
    let deleting := call.run (Accounts.driver other.now) earlier other accounts
    (∃ answer, deleting.1 = .ok answer) →
      (Call.service (.create a)).run (Accounts.driver now) timing stamp deleting.2 =
        (.ok (.account (deleting.2.newest b)), deleting.2.adding b)
  /-- An identifier that a row has, live or deleted, is not registered again, whatever happens. -/
  retired (present : (accounts.get (Account.table α)).Has (Account.id b)) (other : Timing)
      (steps : List (Stamp × Step)) :
    let later := (runSteps Accounts.driver other steps accounts).2
    ∃ e, ((Call.service (.create a)).run (Accounts.driver now) timing stamp later).1 = .error e

theorem CreationOutcome.of_reachable {accounts : Accounts} (reachable : Reachable accounts)
    (timing : Timing) (now : Instant) (stamp : Stamp) (a : α) :
    CreationOutcome TableState.conflict? accounts timing now stamp a
      (Account.assignIdentity stamp a) where
  invalid broken _ driver state := ServiceCall.run_create_of_violations broken driver state
  refused valid inTime what present := by
    rw [ServiceCall.runWithin_create reachable.sound timing now (ServiceCall.refusal?_create valid),
      if_pos inTime, Accounts.creation, present]
  created valid inTime free := by
    rw [ServiceCall.runWithin_create reachable.sound timing now (ServiceCall.refusal?_create valid),
      if_pos inTime, Accounts.creation, free]
  late valid late := by
    rw [ServiceCall.runWithin_create reachable.sound timing now (ServiceCall.refusal?_create valid),
      if_neg (Nat.not_le.2 late)]
  unchanged _ failed := ((ServiceCall.create a).makes_program stamp).runWithin_error failed
  freed valid inTime new id only call earlier other deletion := by
    rintro deleting ⟨answer, ok⟩
    have applies : (call.change other).Applies (Account.table α) other.now accounts deleting.2 :=
      Call.applies_of_ok (by rw [deletion]; rfl) ok
    have sound := applies.sound (call.lawful_change other) reachable.sound
    rw [deletion] at applies
    rw [ServiceCall.run_create_of_free sound timing now (applies.not_taken new only),
      if_neg (not_not_intro valid), if_neg (Nat.not_lt.2 inTime)]
  retired present other steps :=
    ServiceCall.run_create_of_taken (reachable.runSteps other steps).sound timing now
      (Or.inl (runSteps_has present other steps))

end

/-- The creation of a user and of an administrator by the service. -/
theorem creation_outcome {accounts : Accounts} (reachable : Reachable accounts) (timing : Timing)
    (now : Instant) (stamp : Stamp) :
    (∀ u : User,
      CreationOutcome User.conflict? accounts timing now stamp u (u.assignIdentity stamp)) ∧
    ∀ a : Admin,
      CreationOutcome Admin.conflict? accounts timing now stamp a (a.assignIdentity stamp) := by
  have users : TableState.conflict? = User.conflict? :=
    funext fun _ => funext TableState.conflict?_user
  have admins : TableState.conflict? = Admin.conflict? :=
    funext fun _ => funext TableState.conflict?_admin
  rw [← users, ← admins]
  exact ⟨.of_reachable reachable timing now stamp, .of_reachable reachable timing now stamp⟩

/-- A deleted user keeps its identifier and not its phone number. A new administrator has the phone
number of one and the e-mail address of another. -/
theorem creation_outcome_of_overlaps :
    let users : List User := [{ id := "a", phoneNumber := "+1" }, { id := "b", phoneNumber := "+2" }]
    let admins : List Admin := [{ id := "x", phoneNumber := "+1", email := "x@y.org" },
      { id := "y", phoneNumber := "+2", email := "y@y.org" }]
    let steps : List (Stamp × Step) := users.map (fun u => (⟨"", .epoch⟩, .user (.store (.create u))))
      ++ admins.map fun a => (⟨"", .epoch⟩, .admin (.store (.create a)))
    let accounts := (runSteps Accounts.driver ⟨0, 30000⟩
      (steps ++ [(⟨"", .epoch⟩, .user (.store (.delete "b")))]) .empty).2
    let user (u : User) := ((Call.service (.create u)).run (Accounts.driver .epoch) ⟨0, 30000⟩
      ⟨"n", .epoch⟩ accounts).1
    let admin (a : Admin) := ((Call.service (.create a)).run (Accounts.driver .epoch) ⟨0, 30000⟩
      ⟨"n", .epoch⟩ accounts).1
    Reachable accounts ∧
      user {} = .error (.validation (.violations [⟨.phoneNumber, .length (some 1) 20 ""⟩])) ∧
      user { phoneNumber := "+1" } = .error (.conflict "Phone number") ∧
      user { id := "b", phoneNumber := "+2" } = .error (.conflict "Record") ∧
      user { phoneNumber := "+2" } = .ok (.account { id := "n", ordinal := 3, phoneNumber := "+2" })
      ∧ admin { phoneNumber := "+1", email := "x@y.org" } = .error (.conflict "Admin") ∧
      admin { phoneNumber := "+1", email := "y@y.org" } = .error (.conflict "Record") := by
  intro users admins steps accounts user admin
  have reachable : Reachable accounts := Reachable.empty.runSteps _ _
  obtain ⟨ofUser, ofAdmin⟩ := creation_outcome reachable ⟨0, 30000⟩ .epoch ⟨"n", .epoch⟩
  refine ⟨reachable, ?_, ?_, ?_, ?_, ?_, ?_⟩
  · exact congrArg Prod.fst ((ofUser {}).invalid (by decide) _ _)
  · exact congrArg Prod.fst
      ((ofUser { phoneNumber := "+1" }).refused (by decide) (by decide) _ (by decide))
  · exact congrArg Prod.fst
      ((ofUser { id := "b", phoneNumber := "+2" }).refused (by decide) (by decide) _ (by decide))
  · exact congrArg Prod.fst
      ((ofUser { phoneNumber := "+2" }).created (by decide) (by decide) (by decide))
  · exact congrArg Prod.fst ((ofAdmin { phoneNumber := "+1", email := "x@y.org" }).refused
      (by decide) (by decide) _ (by decide))
  · exact congrArg Prod.fst ((ofAdmin { phoneNumber := "+1", email := "y@y.org" }).refused
      (by decide) (by decide) _ (by decide))

end AccountStore

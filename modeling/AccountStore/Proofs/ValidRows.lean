import AccountStore.Proofs.Deadline
import AccountStore.Proofs.Operation.Request
import Mathlib.Logic.Function.Basic

/-!
# Rows that services write are valid

A service checks every account before it writes it. So in tables that only services have changed,
each column that a rule is about holds what a valid account stores there (`FromValid`), and every
row decodes to a valid account. Such a row has a phone number and, of an administrator, an e-mail
address, which is why an empty detail of a contact finds nobody.
-/

namespace AccountStore
open Calendar Memory

/-- The columns that nothing but a creation or an update writes, and that these always do. -/
def Table.ruled (t : Table) : List Column :=
  t.insertable.filter fun c => c ∉ [.password, .refreshToken]

/-- Rules are about single columns, as they are stored. -/
class Account.Checked (α : Type) [Account α] : Prop where
  violations_eq_nil {a : α} (cells : ∀ c ∈ (Account.table α).ruled, ∃ b : α,
    Account.violations b = [] ∧ Account.cell a c = (Account.cell b c).stored) :
      Account.violations a = []
  cell_phoneNumber_ne {a : α} (valid : Account.violations a = []) :
    Account.cell a .phoneNumber ≠ .text (some "")

/-! ## The two kinds of accounts -/

theorem Number.Real32.isBelowZero_dropZeroSign (x : Real32) :
    x.dropZeroSign.isBelowZero = x.isBelowZero := by
  unfold dropZeroSign
  split
  next zero =>
    obtain ⟨bits⟩ := x
    obtain rfl : bits = 0x80000000 := zero
    decide
  next => rfl

theorem Violation.ofReal_dropZeroSign (c : Column) (x : Number.Real32) :
    ofReal c x.dropZeroSign = [] ↔ ofReal c x = [] := by
  unfold ofReal
  rw [Number.Real32.isBelowZero_dropZeroSign]
  split <;> simp

theorem Violation.ofLength_empty (c : Column) (n : Nat) :
    ofLength c (some 1) n "" ≠ [] := by
  simp [ofLength]

theorem Violation.ofEmail_empty (c : Column) : ofEmail c "" ≠ [] := by
  have refused : Email.isAddress "" = false := by rfl
  simp [ofEmail, refused]

instance : Account.Checked User where
  violations_eq_nil {a} cells := by
    obtain ⟨b, idValid, id⟩ := cells .id (by decide)
    obtain ⟨c, firstValid, first⟩ := cells .firstName (by decide)
    obtain ⟨d, lastValid, last⟩ := cells .lastName (by decide)
    obtain ⟨e, phoneValid, phone⟩ := cells .phoneNumber (by decide)
    have id : a.id = b.id := Option.some.inj (Value.text.inj id)
    have first : a.firstName = c.firstName := Option.some.inj (Value.text.inj first)
    have last : a.lastName = d.lastName := Option.some.inj (Value.text.inj last)
    have phone : a.phoneNumber = e.phoneNumber := Option.some.inj (Value.text.inj phone)
    simp only [Account.violations, User.violations, List.append_eq_nil_iff] at *
    simp only [id, first, last, phone, idValid, firstValid, lastValid, phoneValid, and_self]
  cell_phoneNumber_ne {a} valid empty := by
    have empty : a.phoneNumber = "" := Option.some.inj (Value.text.inj empty)
    simp only [Account.violations, User.violations, List.append_eq_nil_iff, empty] at valid
    exact Violation.ofLength_empty _ _ valid.2

instance : Account.Checked Admin where
  violations_eq_nil {a} cells := by
    obtain ⟨b, idValid, id⟩ := cells .id (by decide)
    obtain ⟨c, firstValid, first⟩ := cells .firstName (by decide)
    obtain ⟨d, lastValid, last⟩ := cells .lastName (by decide)
    obtain ⟨e, phoneValid, phone⟩ := cells .phoneNumber (by decide)
    obtain ⟨f, emailValid, email⟩ := cells .email (by decide)
    obtain ⟨g, salaryValid, salary⟩ := cells .salary (by decide)
    obtain ⟨h, biographyValid, biography⟩ := cells .biography (by decide)
    obtain ⟨i, yearsValid, years⟩ := cells .workYears (by decide)
    have id : a.id = b.id := Option.some.inj (Value.text.inj id)
    have first : a.firstName = c.firstName := Option.some.inj (Value.text.inj first)
    have last : a.lastName = d.lastName := Option.some.inj (Value.text.inj last)
    have phone : a.phoneNumber = e.phoneNumber := Option.some.inj (Value.text.inj phone)
    have email : a.email = f.email := Option.some.inj (Value.text.inj email)
    have salary : a.salary = g.salary.dropZeroSign := Option.some.inj (Value.float.inj salary)
    have biography : a.biography = h.biography := Option.some.inj (Value.text.inj biography)
    have years : a.workYears = i.workYears := Option.some.inj (Value.bigint.inj years)
    simp only [Account.violations, Admin.violations, List.append_eq_nil_iff] at *
    simp only [id, first, last, phone, email, salary, biography, years,
      Violation.ofReal_dropZeroSign, idValid, firstValid, lastValid, phoneValid, emailValid,
      salaryValid, biographyValid, yearsValid, and_self]
  cell_phoneNumber_ne {a} valid empty := by
    have empty : a.phoneNumber = "" := Option.some.inj (Value.text.inj empty)
    simp only [Account.violations, Admin.violations, List.append_eq_nil_iff, empty] at valid
    exact Violation.ofLength_empty _ _ valid.1.1.1.1.2

theorem Admin.email_ne {a : Admin} (valid : a.violations = []) : a.email ≠ "" := by
  intro empty
  simp only [violations, List.append_eq_nil_iff, empty] at valid
  exact Violation.ofEmail_empty _ valid.1.1.1.2

/-! ## Rows -/

/-- The row decodes to an account that breaks no rule. -/
def DecodesValid (α : Type) [Account α] (row : Row) : Prop :=
  ∃ a : α, Account.ofRow? (row.project (Account.table α) (Account.table α).projection) = some a ∧
    Account.violations a = []

/-- Each ruled column holds what some valid account stores there. -/
def FromValid (α : Type) [Account α] (row : Row) : Prop :=
  ∀ c ∈ (Account.table α).ruled, ∃ b : α,
    Account.violations b = [] ∧ row c = (Account.cell b c).stored

/-- The cells of the change, if it has any, are those of a valid account. -/
def Change.Valid (α : Type) [Account α] : Change → Prop
  | .insertion _ cells => ∃ b : α, Account.violations b = [] ∧
      cells = Store.cells (Account.table α).insertable b
  | .replacement _ cells => ∃ b : α, Account.violations b = [] ∧
      cells = Store.cells (Account.table α).updatable b
  | _ => True

section Rows

variable {α : Type} [Account α]

theorem Table.insertable_of_ruled {t : Table} {c : Column} (ruled : c ∈ t.ruled) :
    c ∈ t.insertable :=
  (List.mem_filter.1 ruled).1

theorem FromValid.ofCells {b : α} (valid : Account.violations b = []) (n : Nat) :
    FromValid α (Row.ofCells n (Store.cells (Account.table α).insertable b)) :=
  fun _ ruled => ⟨b, valid, Store.ofCells_cells (Table.insertable_of_ruled ruled) n b⟩

theorem Change.rewrite_replacement_ne {id : String} {cells : List (Column × Value)} {now : Instant}
    {row : Row} {column : Column}
    (altered : (replacement id cells).rewrite now row column ≠ row column) :
    ∃ cell ∈ cells, cell.1 = column ∧
      (replacement id cells).rewrite now row column = cell.2.stored := by
  simp only [rewrite] at altered ⊢
  by_cases matched : row.satisfiesAll (Statement.liveById id) = true
  · rw [if_pos matched] at altered ⊢
    rcases Row.assign_cases now (cells.map fun c => (c.1, .value c.2)) row column with
      ⟨a, member, same, stored⟩ | same
    · obtain ⟨cell, there, rfl⟩ := List.mem_map.1 member
      exact ⟨cell, there, same, stored⟩
    · exact absurd same altered
  · rw [if_neg matched] at altered
    exact absurd rfl altered

theorem FromValid.rewrite {c : Change} (change : c.Valid α) {row : Row} (valid : FromValid α row)
    (now : Instant) : FromValid α (c.rewrite now row) := by
  intro column ruled
  by_cases altered : c.rewrite now row column = row column
  · rw [altered]
    exact valid column ruled
  have notOther : column ∉ [Column.deletedAt, .password, .refreshToken] := by
    have others : ∀ t : Table, ∀ d ∈ t.ruled, d ∉ [Column.deletedAt, .password, .refreshToken] := by
      intro t
      cases t <;> decide
    exact others _ column ruled
  obtain ⟨_, ⟨id, cells, rfl, _⟩ | ⟨_, _, _, rfl⟩ | rfl | ⟨_, _, _, _, rfl⟩⟩ :=
    Change.rewrite_ne altered
  · obtain ⟨b, validB, rfl⟩ := change
    obtain ⟨cell, member, rfl, stored⟩ := Change.rewrite_replacement_ne altered
    obtain ⟨d, _, rfl⟩ := List.mem_map.1 member
    exact ⟨b, validB, stored⟩
  all_goals exact absurd (by simp) notOther

theorem FromValid.exists_reads [Account.Readable α] [Account.Checked α] {row : Row}
    (valid : FromValid α row) (typed : row.Typed (Account.table α)) :
    ∃ a : α, Account.Reads a row ∧ Account.violations a = [] := by
  obtain ⟨a, reads⟩ : ∃ a : α, Account.Reads a row := Account.Readable.exists_reads typed
  refine ⟨a, reads, Account.Checked.violations_eq_nil fun c ruled => ?_⟩
  rw [reads c (List.mem_filter.1 (Table.insertable_of_ruled ruled)).1]
  exact valid c ruled

theorem FromValid.decodesValid [Account.Readable α] [Account.Checked α] {row : Row}
    (valid : FromValid α row) (typed : row.Typed (Account.table α)) : DecodesValid α row := by
  obtain ⟨a, reads, passes⟩ := valid.exists_reads typed
  exact ⟨a, Account.Readable.ofRow?_of_reads reads, passes⟩

theorem Change.Applies.fromValid {t : Table} {c : Change} {now : Instant} {before after : Accounts}
    (change : t = Account.table α → c.Valid α) (applies : c.Applies t now before after)
    (valid : ∀ row ∈ (before.get (Account.table α)).rows, FromValid α row) :
    ∀ row ∈ (after.get (Account.table α)).rows, FromValid α row := by
  intro row member
  rcases applies.mem member with old | ⟨same, ⟨id, cells, rfl, rfl⟩ | ⟨old, there, rfl⟩⟩
  · exact valid row old
  · obtain ⟨b, validB, rfl⟩ := change same.symm
    exact .ofCells validB _
  · exact (valid old (same ▸ there)).rewrite (change same.symm) now

end Rows

/-! ## Runs of services -/

section Services

variable {α : Type} [Account α]

theorem ServiceCall.valid_change_of_ok {driver : Driver σ} {timing : Timing} {stamp : Stamp}
    {call : ServiceCall α} {state : σ} {a : Answer α}
    (ok : ((Call.service call).run driver timing stamp state).1 = .ok a) :
    (call.change stamp).Valid α := by
  have accepted := accepted_of_ok ok
  cases call with
  | create a => exact ⟨_, Service.invalid?_eq_none.1 accepted, rfl⟩
  | update a => exact ⟨_, Service.invalid?_eq_none.1 accepted, rfl⟩
  | get | list | delete | checkField | ifExists | changePassword | updateRefreshToken => trivial

end Services

theorem exists_ok_of_map {f : β → γ} {x : Except ε β} {c : γ} (ok : x.map f = .ok c) :
    ∃ b, x = .ok b := by
  cases x with
  | error e => exact absurd ok nofun
  | ok b => exact ⟨b, rfl⟩

def Step.IsService : Step → Prop
  | .user (.service _) => True
  | .admin (.service _) => True
  | _ => False

/-- The rows of both tables are from valid accounts. -/
structure Memory.Accounts.FromValid (accounts : Accounts) : Prop where
  users : ∀ row ∈ accounts.users.rows, AccountStore.FromValid User row
  admins : ∀ row ∈ accounts.admins.rows, AccountStore.FromValid Admin row

theorem Step.fromValid_run {step : Step} (service : step.IsService) (timing : Timing)
    (now : Instant) (stamp : Stamp) {accounts : Accounts} (valid : accounts.FromValid) :
    (step.run (Accounts.driver now) timing stamp accounts).2.FromValid := by
  rcases step.run_cases timing now stamp accounts with ⟨same, _⟩ | ⟨applies, a, ok⟩
  · rw [same]
    exact valid
  · cases step with
    | user call =>
        cases call with
        | store call => exact service.elim
        | service call =>
            obtain ⟨answer, succeeded⟩ := exists_ok_of_map ok
            have change := ServiceCall.valid_change_of_ok succeeded
            refine ⟨applies.fromValid (α := User) (fun _ => change) valid.users, ?_⟩
            exact applies.fromValid (α := Admin) (t := .users) nofun valid.admins
    | admin call =>
        cases call with
        | store call => exact service.elim
        | service call =>
            obtain ⟨answer, succeeded⟩ := exists_ok_of_map ok
            have change := ServiceCall.valid_change_of_ok succeeded
            refine ⟨?_, applies.fromValid (α := Admin) (fun _ => change) valid.admins⟩
            exact applies.fromValid (α := User) (t := .admins) nofun valid.users

theorem runSteps_fromValid {steps : List (Stamp × Step)}
    (services : ∀ step ∈ steps, step.2.IsService) (timing : Timing) {accounts : Accounts}
    (valid : accounts.FromValid) :
    (runSteps Accounts.driver timing steps accounts).2.FromValid := by
  induction steps generalizing accounts with
  | nil => exact valid
  | cons head rest ih =>
      refine ih (fun step member => services step (List.mem_cons_of_mem _ member)) ?_
      exact head.2.fromValid_run (services head List.mem_cons_self) timing head.1.now head.1 valid

/-! ## Contact details that are missing -/

theorem Value.same_text_eq_decide (v : Value) (s : String) :
    v.same (.text (some s)) = decide (v = .text (some s)) := by
  rw [Bool.eq_iff_iff, decide_eq_true_iff]
  exact same_text

section Missing

variable {α : Type} [Account α]

theorem FromValid.phoneNumber_not_empty [Account.Readable α] [Account.Checked α] {row : Row}
    (valid : FromValid α row) (typed : row.Typed (Account.table α)) :
    (row .phoneNumber).same (.text (some "")) = false := by
  obtain ⟨a, reads, passes⟩ := valid.exists_reads typed
  rw [← reads .phoneNumber (by cases Account.table α <;> decide), Value.same_text_eq_decide]
  exact decide_eq_false (Account.Checked.cell_phoneNumber_ne passes)

theorem FromValid.email_not_empty {row : Row} (valid : FromValid Admin row)
    (typed : row.Typed .admins) : (row .email).same (.text (some "")) = false := by
  obtain ⟨a, reads, passes⟩ := valid.exists_reads typed
  rw [← reads .email (by decide), Value.same_text_eq_decide]
  exact decide_eq_false fun empty => Admin.email_ne passes (Option.some.inj (Value.text.inj empty))

/-- The check for the contact details and the password reset act on exactly the live rows that are
hit, and the reset changes nothing else. -/
structure Finds (run : Request α → Accounts → Except AccountError (Answer α) × Accounts)
    (accounts : Accounts) (lookup : Account.Lookup α) (contact : Account.Contact α)
    (hit : Row → Bool) : Prop where
  check : run (.ifExists lookup) accounts =
    (.ok (.truth ((accounts.get (Account.table α)).live.any hit)), accounts)
  reset (password : String) : run (.changePassword contact password) accounts =
    (.ok (.truth ((accounts.get (Account.table α)).live.any hit)),
      accounts.set (Account.table α) { accounts.get (Account.table α) with
        rows := (accounts.get (Account.table α)).rows.map fun row =>
          if row.isLive && hit row then Function.update row .password (.text (some password))
          else row })

structure FindsNobody (run : Request α → Accounts → Except AccountError (Answer α) × Accounts)
    (accounts : Accounts) (lookup : Account.Lookup α) (contact : Account.Contact α) : Prop where
  check : run (.ifExists lookup) accounts = (.ok (.truth false), accounts)
  reset (password : String) :
    run (.changePassword contact password) accounts = (.ok (.truth false), accounts)

variable {run : Request α → Accounts → Except AccountError (Answer α) × Accounts}
  {accounts : Accounts} {lookup : Account.Lookup α} {contact : Account.Contact α} {hit : Row → Bool}

theorem Finds.nobody (finds : Finds run accounts lookup contact fun _ => false) :
    FindsNobody run accounts lookup contact where
  check := by rw [finds.check, List.any_eq_false.2 (by simp)]
  reset password := by
    rw [finds.reset, List.any_eq_false.2 (by simp)]
    simp only [Bool.and_false, Bool.false_eq_true, if_false, List.map_id']
    exact congrArg (Prod.mk _) (Accounts.set_get accounts (Account.table α))

theorem Request.finds (sound : accounts.Sound) {layer : Layer} {timing : Timing}
    (inTime : layer.InTime timing) (now : Instant) (stamp : Stamp)
    (same : Account.predicate (Account.reset contact) = Account.predicate lookup)
    (hits : ∀ row ∈ (accounts.get (Account.table α)).rows,
      row.matchesContact (Account.predicate lookup) = hit row) :
    Finds (Request.run layer timing now stamp) accounts lookup contact hit := by
  have found : ((accounts.get (Account.table α)).live.any fun row =>
      row.matchesContact (Account.predicate lookup)) =
        (accounts.get (Account.table α)).live.any hit := by
    rw [Bool.eq_iff_iff, List.any_eq_true, List.any_eq_true]
    refine exists_congr fun row => and_congr_right fun member => ?_
    rw [hits row (List.mem_of_mem_filter member)]
  refine ⟨by rw [run_ifExists inTime, found], fun password => ?_⟩
  have rewritten : TableState.assigned now [(.password, .value (.text (some password)))]
      [.contact (Account.predicate lookup), .live] (accounts.get (Account.table α)).rows =
        (accounts.get (Account.table α)).rows.map fun row =>
          if row.isLive && hit row then Function.update row .password (.text (some password))
          else row := by
    refine List.map_congr_left fun row member => ?_
    have matched : row.satisfiesAll [.contact (Account.predicate lookup), .live] =
        (row.isLive && hit row) := by
      simp [Row.satisfiesAll, Row.satisfies, hits row member, Bool.and_comm]
    rw [matched, Row.assign_single]
    rfl
  rw [run_changePassword sound inTime, same, found, rewritten]

end Missing

section Contacts

variable {accounts : Accounts} {layer : Layer} {timing : Timing} (sound : accounts.Sound)
  (valid : accounts.FromValid) (inTime : layer.InTime timing) (now : Instant) (stamp : Stamp)

include sound valid inTime

theorem findsNobody_user :
    FindsNobody (α := User) (Request.run layer timing now stamp) accounts ⟨""⟩ "" := by
  refine (Request.finds sound inTime now stamp rfl fun row member => ?_).nobody
  exact (valid.users row member).phoneNumber_not_empty ((sound .users).typed row member)

theorem finds_email (email : String) :
    Finds (α := Admin) (Request.run layer timing now stamp) accounts (.either ⟨"", email⟩)
      ⟨"", email⟩ fun row => row .email = .text (some email) := by
  refine Request.finds sound inTime now stamp rfl fun row member => ?_
  have phone :=
    (valid.admins row member).phoneNumber_not_empty ((sound .admins).typed row member)
  change ((row .phoneNumber).same (.text (some "")) || (row .email).same (.text (some email))) = _
  rw [phone, Bool.false_or, Value.same_text_eq_decide]

theorem finds_phoneNumber (phoneNumber : String) :
    Finds (α := Admin) (Request.run layer timing now stamp) accounts (.either ⟨phoneNumber, ""⟩)
      ⟨phoneNumber, ""⟩ fun row => row .phoneNumber = .text (some phoneNumber) := by
  refine Request.finds sound inTime now stamp rfl fun row member => ?_
  have email := (valid.admins row member).email_not_empty ((sound .admins).typed row member)
  change ((row .phoneNumber).same (.text (some phoneNumber)) ||
    (row .email).same (.text (some ""))) = _
  rw [email, Bool.or_false, Value.same_text_eq_decide]

theorem findsNobody_admin :
    FindsNobody (α := Admin) (Request.run layer timing now stamp) accounts (.either ⟨"", ""⟩)
      ⟨"", ""⟩ := by
  refine (Request.finds sound inTime now stamp rfl fun row member => ?_).nobody
  have phone :=
    (valid.admins row member).phoneNumber_not_empty ((sound .admins).typed row member)
  have email := (valid.admins row member).email_not_empty ((sound .admins).typed row member)
  change ((row .phoneNumber).same (.text (some "")) || (row .email).same (.text (some ""))) = _
  rw [phone, email, Bool.or_self]

end Contacts

/-- After every run of service calls from empty tables all rows, live or deleted, decode to valid
accounts. Hence no user is found by an empty phone number, and an administrator by one detail if the
other one is empty. -/
theorem service_rows_valid {steps : List (Stamp × Step)}
    (services : ∀ step ∈ steps, step.2.IsService) (timing : Timing) :
    let accounts := (runSteps Accounts.driver timing steps .empty).2
    (∀ row ∈ accounts.users.rows, DecodesValid User row) ∧
      (∀ row ∈ accounts.admins.rows, DecodesValid Admin row) ∧
      ∀ (layer : Layer) (timing : Timing) (now : Instant) (stamp : Stamp), layer.InTime timing →
        FindsNobody (α := User) (Request.run layer timing now stamp) accounts ⟨""⟩ "" ∧
        (∀ email, Finds (α := Admin) (Request.run layer timing now stamp) accounts
          (.either ⟨"", email⟩) ⟨"", email⟩ fun row => row .email = .text (some email)) ∧
        (∀ phoneNumber, Finds (α := Admin) (Request.run layer timing now stamp) accounts
          (.either ⟨phoneNumber, ""⟩) ⟨phoneNumber, ""⟩
            fun row => row .phoneNumber = .text (some phoneNumber)) ∧
        FindsNobody (α := Admin) (Request.run layer timing now stamp) accounts
          (.either ⟨"", ""⟩) ⟨"", ""⟩ := by
  intro accounts
  have sound : accounts.Sound := (Reachable.empty.runSteps timing steps).sound
  have valid : accounts.FromValid :=
    runSteps_fromValid services timing ⟨fun _ => nofun, fun _ => nofun⟩
  refine ⟨fun row member => ?_, fun row member => ?_, ?_⟩
  · exact (valid.users row member).decodesValid ((sound .users).typed row member)
  · exact (valid.admins row member).decodesValid ((sound .admins).typed row member)
  · intro layer timing now stamp inTime
    exact ⟨findsNobody_user sound valid inTime now stamp,
      finds_email sound valid inTime now stamp, finds_phoneNumber sound valid inTime now stamp,
      findsNobody_admin sound valid inTime now stamp⟩

def creationOfAdmin : List (Stamp × Step) :=
  [(⟨"a", .epoch⟩, .admin (.service (.create { phoneNumber := "+1", email := "a@b.c" })))]

theorem service_rows_valid_of_creation :
    let accounts := (runSteps Accounts.driver ⟨0, 30000⟩ creationOfAdmin .empty).2
    (∀ step ∈ creationOfAdmin, step.2.IsService) ∧ accounts.admins.rows.length = 1 ∧
      (∀ row ∈ accounts.admins.rows, DecodesValid Admin row) ∧
      FindsNobody (α := Admin) (Request.run .store ⟨0, 30000⟩ .epoch ⟨"", .epoch⟩) accounts
        (.either ⟨"", ""⟩) ⟨"", ""⟩ := by
  have services : ∀ step ∈ creationOfAdmin, step.2.IsService :=
    List.forall_mem_singleton.2 trivial
  obtain ⟨_, admins, contacts⟩ := service_rows_valid services ⟨0, 30000⟩
  obtain ⟨_, _, _, nobody⟩ := contacts .store ⟨0, 30000⟩ .epoch ⟨"", .epoch⟩ nofun
  exact ⟨services, by decide +kernel, admins, nobody⟩

end AccountStore

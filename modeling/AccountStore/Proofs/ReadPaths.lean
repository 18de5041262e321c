import AccountStore.Proofs.Operation.Request

/-!
# All ways to read agree

A listing without filters shows every live row, and what the other reads answer can be told from
it: a look-up by identifier, the check of a field and the checks of contact details. The one
exception is an empty birth date, which is stored as NULL and so never found.
-/

namespace AccountStore
open Calendar Memory

/-! ## Accounts and the rows they were read from -/

namespace Account
open Readable

variable {α : Type} [Account α]

theorem any_iff_of_reads {p : Row → Bool} {q : α → Prop}
    (same : ∀ {a row}, Reads a row → (p row = true ↔ q a)) {accounts : List α} {rows : List Row}
    (reads : List.Forall₂ Reads accounts rows) : rows.any p = true ↔ ∃ a ∈ accounts, q a := by
  induction reads with
  | nil => simp
  | cons one _ ih => rw [List.any_cons, Bool.or_eq_true, same one, ih, List.exists_mem_cons_iff]

/-- A row is found by a text if its account has that text, unless it is an empty birth date. -/
theorem Reads.same_iff [Readable α] {a : α} {row : Row} (reads : Reads a row)
    (field : Field (table α)) (value : String) :
    (row field.column).same (.text (some value)) = true ↔
      text a field.column = value ∧ ¬ (field.column = .birthDate ∧ value = "") := by
  rw [Value.same_text, reads.checkable field.checkable]
  by_cases birth : field.column = .birthDate
  · rw [if_pos birth]
    simp only [Value.ofNullableText, Value.text.injEq, birth, true_and]
    by_cases empty : text a .birthDate = ""
    · rw [if_pos empty, empty]
      simp only [reduceCtorEq, false_iff, not_and, not_not]
      exact Eq.symm
    · rw [if_neg empty, Option.some.injEq]
      exact ⟨fun same => ⟨same, same ▸ empty⟩, And.left⟩
  · rw [if_neg birth]
    simp [birth]

end Account

/-! ## What the reads of one table answer -/

def Field.id (t : Table) : Field t :=
  ⟨.id, by cases t <;> decide⟩

def Field.phoneNumber (t : Table) : Field t :=
  ⟨.phoneNumber, by cases t <;> decide⟩

def Field.email : Field .admins :=
  ⟨.email, by simp [Table.checkable]⟩

/-- What a request is answered, given the listing of all accounts. -/
structure ReadsAgree {α : Type} [Account α] [Account.Readable α]
    (ask : Request α → Except AccountError (Answer α)) (all : List α) : Prop where
  list : ask (.list .unlimited []) = .ok (.accounts all)
  get (id : String) :
    (∃ a, ask (.list .unlimited [.byId id]) = .ok (.accounts [a]) ∧
        ask (.get id) = .ok (.account a)) ∨
      (ask (.list .unlimited [.byId id]) = .ok (.accounts []) ∧ ask (.get id) = .error .notFound)
  get_iff (id : String) :
    (∃ a, ask (.get id) = .ok a) ↔ ask (.checkField (.id _) id) = .ok (.truth true)
  checkField (field : Field (Account.table α)) (value : String) :
    ∃ held, ask (.checkField field value) = .ok (.truth held) ∧
      (held = true ↔ (∃ a ∈ all, Account.Readable.text a field.column = value) ∧
        ¬ (field.column = .birthDate ∧ value = ""))

/-- What the two checks of an administrator's contact details answer. -/
def ContactsAgree (ask : Request Admin → Except AccountError (Answer Admin)) (all : List Admin)
    (contact : AdminContact) : Prop :=
  ∃ both phone email : Bool,
    ask (.ifExists (.both contact)) = .ok (.truth both) ∧
    ask (.ifExists (.either contact)) = .ok (.truth (phone || email)) ∧
    ask (.checkField (.phoneNumber _) contact.phoneNumber) = .ok (.truth phone) ∧
    ask (.checkField .email contact.email) = .ok (.truth email) ∧
    (both = true ↔ ∃ a ∈ all, a.phoneNumber = contact.phoneNumber ∧ a.email = contact.email) ∧
    (both = true → (phone || email) = true)

namespace Request

variable {α : Type} [Account α] {accounts : Accounts} {now : Instant} {timing : Timing}
  {stamp : Stamp} {layer : Layer}

theorem answer_checkField (inTime : layer.InTime timing) (field : Field (Account.table α))
    (value : String) :
    answer layer timing now stamp accounts (.checkField field value) =
      .ok (.truth ((accounts.get (Account.table α)).live.any fun row =>
        (row field.column).same (.text (some value)))) := by
  rw [answer, run_checkField inTime]

theorem answer_ifExists (inTime : layer.InTime timing) (lookup : Account.Lookup α) :
    answer layer timing now stamp accounts (.ifExists lookup) =
      .ok (.truth ((accounts.get (Account.table α)).live.any fun row =>
        row.matchesContact (Account.predicate lookup))) := by
  rw [answer, run_ifExists inTime]

variable [Account.Readable α]

theorem answer_list (sound : accounts.Sound) (inTime : layer.InTime timing) {filters : List Filter}
    {found : List α}
    (reads : List.Forall₂ Account.Reads found ((accounts.get (Account.table α)).listed filters)) :
    answer layer timing now stamp accounts (.list .unlimited filters) = .ok (.accounts found) := by
  rw [answer, run_list sound inTime reads]

theorem answer_get (sound : accounts.Sound) (inTime : layer.InTime timing) {id : String}
    {found : List α}
    (reads : List.Forall₂ Account.Reads found
      ((accounts.get (Account.table α)).listed [.byId id])) :
    answer layer timing now stamp accounts (.get id) =
      found.head?.elim (.error .notFound) fun a => .ok (.account a) := by
  rw [answer, run_get sound inTime reads]

theorem readsAgree (sound : accounts.Sound) (inTime : layer.InTime timing) {all : List α}
    (reads : List.Forall₂ Account.Reads all (accounts.get (Account.table α)).live) :
    ReadsAgree (answer layer timing now stamp accounts) all where
  list := by
    rw [← TableState.listed_nil] at reads
    exact answer_list sound inTime reads
  get id := by
    obtain ⟨found, reads⟩ := exists_found (α := α) sound .unlimited [.byId id]
    rw [Pagination.cut_unlimited] at reads
    rw [answer_list sound inTime reads, answer_get sound inTime reads]
    have single := (sound (Account.table α)).length_listed_byId id
    rw [← reads.length_eq] at single
    match found, single with
    | [], _ => exact Or.inr ⟨rfl, rfl⟩
    | [a], _ => exact Or.inl ⟨a, rfl, rfl⟩
  get_iff id := by
    obtain ⟨found, reads⟩ := exists_found (α := α) sound .unlimited [.byId id]
    rw [Pagination.cut_unlimited] at reads
    rw [answer_checkField inTime, answer_get sound inTime reads]
    rw [TableState.listed_byId] at reads
    have held : ((accounts.get (Account.table α)).live.any fun row =>
        (row .id).same (.text (some id))) = true ↔ found ≠ [] := by
      rw [TableState.any_eq_countP, decide_eq_true_iff, List.countP_eq_length_filter,
        ← reads.length_eq, List.length_pos_iff]
    rw [Except.ok.injEq, Answer.truth.injEq]
    refine Iff.trans ?_ held.symm
    cases found with
    | nil => simp
    | cons a rest => simp
  checkField field value := by
    refine ⟨_, answer_checkField inTime field value, ?_⟩
    rw [Account.any_iff_of_reads (fun one => one.same_iff field value) reads]
    constructor
    · rintro ⟨a, member, same, present⟩
      exact ⟨⟨a, member, same⟩, present⟩
    · rintro ⟨⟨a, member, same⟩, present⟩
      exact ⟨a, member, same, present⟩

theorem answer_ifExists_user (inTime : layer.InTime timing) (phoneNumber : String) :
    answer layer timing now stamp accounts (.ifExists ⟨phoneNumber⟩ : Request User) =
      answer layer timing now stamp accounts (.checkField (.phoneNumber _) phoneNumber) := by
  rw [answer_ifExists inTime, answer_checkField inTime]
  rfl

theorem any_either (rows : List Row) (phoneNumber email : String) :
    (rows.any fun row => row.matchesContact (.either phoneNumber email)) =
      ((rows.any fun row => (row .phoneNumber).same (.text (some phoneNumber))) ||
        rows.any fun row => (row .email).same (.text (some email))) := by
  induction rows with
  | nil => rfl
  | cons row rest ih =>
      rw [List.any_cons, List.any_cons, List.any_cons, ih, Row.matchesContact]
      ac_rfl

theorem any_both (rows : List Row) (phoneNumber email : String)
    (both : (rows.any fun row => row.matchesContact (.both phoneNumber email)) = true) :
    (rows.any fun row => row.matchesContact (.either phoneNumber email)) = true := by
  obtain ⟨row, member, matched⟩ := List.any_eq_true.1 both
  rw [Row.matchesContact, Bool.and_eq_true] at matched
  refine List.any_eq_true.2 ⟨row, member, ?_⟩
  rw [Row.matchesContact, matched.1, Bool.true_or]

theorem contactsAgree (inTime : layer.InTime timing) {all : List Admin}
    (reads : List.Forall₂ Account.Reads all (accounts.get .admins).live) (contact : AdminContact) :
    ContactsAgree (answer layer timing now stamp accounts) all contact := by
  have either := any_either (accounts.get .admins).live contact.phoneNumber contact.email
  refine ⟨_, _, _, answer_ifExists inTime _, ?_, answer_checkField inTime _ _,
    answer_checkField inTime _ _, ?_, ?_⟩
  · exact (answer_ifExists inTime _).trans
      (congrArg (fun b => Except.ok (Answer.truth b)) either)
  · refine Account.any_iff_of_reads (fun {a row} one => ?_) reads
    have phone := one.same_iff (.phoneNumber _) contact.phoneNumber
    have email := one.same_iff .email contact.email
    change ((row .phoneNumber).same _ && (row .email).same _) = true ↔ _
    rw [Bool.and_eq_true]
    refine (and_congr phone email).trans ?_
    simp [Field.phoneNumber, Field.email, Account.Readable.text, Admin.text]
  · exact fun both => either.symm.trans (any_both _ _ _ both)

end Request

/-- In every reachable state and on both layers all ways to read agree. -/
theorem read_paths_agree {accounts : Accounts} (reachable : Reachable accounts) {layer : Layer}
    {timing : Timing} (inTime : layer.InTime timing) (now : Instant) (stamp : Stamp) :
    (∃ all : List User,
      ReadsAgree (Request.answer layer timing now stamp accounts) all ∧
        ∀ phoneNumber,
          Request.answer layer timing now stamp accounts (.ifExists ⟨phoneNumber⟩ : Request User) =
            Request.answer layer timing now stamp accounts
              (.checkField (.phoneNumber _) phoneNumber)) ∧
    ∃ all : List Admin,
      ReadsAgree (Request.answer layer timing now stamp accounts) all ∧
        ∀ contact, ContactsAgree (Request.answer layer timing now stamp accounts) all contact := by
  have sound := reachable.sound
  constructor
  · obtain ⟨all, reads⟩ := Request.exists_found (α := User) sound .unlimited []
    rw [Pagination.cut_unlimited, TableState.listed_nil] at reads
    exact ⟨all, Request.readsAgree sound inTime reads, Request.answer_ifExists_user inTime⟩
  · obtain ⟨all, reads⟩ := Request.exists_found (α := Admin) sound .unlimited []
    rw [Pagination.cut_unlimited, TableState.listed_nil] at reads
    exact ⟨all, Request.readsAgree sound inTime reads, Request.contactsAgree inTime reads⟩

def withoutBirthDate : Accounts :=
  (runSteps Accounts.driver ⟨0, 30000⟩
    [(⟨"", .epoch⟩, .user (.store (.create { id := "a", phoneNumber := "+1" })))] .empty).2

/-- A listing shows the empty birth date of a user that the check of the field does not find. -/
theorem read_paths_agree_without_birthDate :
    Reachable withoutBirthDate ∧ Layer.service.InTime ⟨0, 30000⟩ ∧
      let ask : Request User → Except AccountError (Answer User) :=
        Request.answer .service ⟨0, 30000⟩ .epoch ⟨"", .epoch⟩ withoutBirthDate
      (∃ all, ask (.list .unlimited []) = .ok (.accounts all) ∧ all.map User.birthDate = [""]) ∧
        ask (.checkField ⟨.birthDate, by decide⟩ "") = .ok (.truth false) := by
  have reachable : Reachable withoutBirthDate := Reachable.empty.runSteps _ _
  have inTime : Layer.service.InTime ⟨0, 30000⟩ := fun _ => by decide
  refine ⟨reachable, inTime, ?_⟩
  intro ask
  obtain ⟨⟨all, agree, _⟩, _⟩ := read_paths_agree reachable inTime .epoch ⟨"", .epoch⟩
  have shown : (Answer.listed (Request.answer .service ⟨0, 30000⟩ .epoch ⟨"", .epoch⟩
      withoutBirthDate (.list .unlimited [] : Request User))).map User.birthDate = [""] := by
    decide +kernel
  rw [agree.list] at shown
  obtain ⟨held, answer, found⟩ := agree.checkField ⟨.birthDate, by decide⟩ ""
  have missed : held = false := Bool.eq_false_iff.2 fun yes => (found.1 yes).2 ⟨rfl, rfl⟩
  exact ⟨⟨all, agree.list, shown⟩, missed ▸ answer⟩

end AccountStore

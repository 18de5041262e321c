import AccountStore.Proofs.Account.Codec
import AccountStore.Proofs.Operation.Request
import AccountStore.Script

/-!
# One codec on every read path

Whatever rows a connection answers, listings, look-ups and creations that return their row take the
same view of them (`one_codec`): a listing gives one account for each row or fails as a whole, and
the other two give the account of the first row. Which rows decode, and to what, is read off the
schema.
-/

namespace AccountStore
open Account

/-- A listing of rows: one account for each, in their order, or a failure as a whole. -/
structure ListsRows {α : Type} [Account α] (rows : List ResultRow)
    (listed : Except AccountError (Answer α)) : Prop where
  ok_iff (accounts : List α) :
    listed = .ok (.accounts accounts) ↔ List.Forall₂ Decodes accounts rows
  ok : (∀ row ∈ rows, ∃ a : α, Decodes a row) → ∃ found, listed = .ok (.accounts found)
  error : (¬∀ row ∈ rows, ∃ a : α, Decodes a row) → listed = .error (.database .undecodable)

/-- What a listing, a look-up and a creation that returns its row answer to the same rows. -/
structure AnswersRows {α : Type} [Account α] (rows : List ResultRow)
    (listed got fetched : Except AccountError (Answer α)) : Prop where
  every : ListsRows rows listed
  first_same : rows ≠ [] → got = fetched
  first_iff (row : ResultRow) (a : α) :
    rows.head? = some row → (got = .ok (.account a) ↔ Decodes a row)
  first_error (row : ResultRow) :
    rows.head? = some row → (¬∃ a : α, Decodes a row) → got = .error (.database .undecodable)
  empty : rows = [] → listed = .ok (.accounts []) ∧ got = .error .notFound ∧
    fetched = .error (.internal "insert returned no row")

/-- What the schema says of the accounts that a row decodes to. -/
structure DecodesBySchema (α : Type) [Account α] (row : ResultRow) : Prop where
  /-- Every column that is not nullable is there with its type and not NULL. -/
  exists_iff : (∃ a : α, Decodes a row) ↔
    ∀ d ∈ (table α).definitions, d.column ∈ (table α).projection → d.nullable = false →
      (d.value? (table α) row).isSome
  unique (a b : α) : Decodes a row → Decodes b row → a = b
  /-- The value of the row, and in a nullable column the zero without one. -/
  carries (a : α) : Decodes a row → ∀ d ∈ (table α).definitions,
    d.column ∈ (table α).projection →
      carried a d.column = (d.value? (table α) row).getD d.type.zero
  /-- Columns that reads do not return may be anything. -/
  others (other : ResultRow) :
    (∀ c ∈ (table α).projection,
      row.value? (c.name (table α)) = other.value? (c.name (table α))) →
    ∀ a : α, Decodes a row ↔ Decodes a other

variable {α σ : Type} [Account α] {driver : Driver σ} {state after : σ} {rows : List ResultRow}

/-! ## What operations make of rows -/

namespace Store

/-- What a listing makes of the rows that it gets. -/
def every (rows : List ResultRow) : Except AccountError (List α) :=
  (rows.mapM Account.ofRow?).elim (.error (.database .undecodable)) .ok

/-- What an operation on one row makes of the rows that it gets. -/
def first (absent : AccountError) (rows : List ResultRow) : Except AccountError α :=
  rows.head?.elim (.error absent) fun row => (Account.ofRow? row).elim (.error (.database .undecodable)) .ok

theorem run_list_of_answer {page : Pagination} {filters : List Filter}
    (answer : driver.query (.list (table α) filters page) state = (.ok rows, after)) :
    (list page filters : Program (List α)).run driver state = (every rows, after) := by
  rw [list_eq, Program.run_answered answer, every]
  cases rows.mapM (Account.ofRow? : ResultRow → Option α) <;> rfl

theorem run_first (absent : AccountError) (rows : List ResultRow) :
    ((Program.ofOption absent rows.head?).bind ofRow : Program α).run driver state =
      (first absent rows, state) := by
  cases rows with
  | nil => rfl
  | cons row rest =>
      change (Program.ofOption (.database .undecodable) (Account.ofRow? row : Option α)).run driver state =
        ((Account.ofRow? row).elim (.error (.database .undecodable)) .ok, state)
      cases (Account.ofRow? row : Option α) <;> rfl

theorem run_get_of_answer {id : String}
    (answer : driver.query (.byId (table α) id) state = (.ok rows, after)) :
    (get id : Program α).run driver state = (first .notFound rows, after) := by
  rw [get_eq, Program.run_answered answer, run_first]

theorem run_createAndFetch_of_answer {account : α}
    (answer : driver.query (.insert (table α) (cells (table α).insertable account) true) state =
      (.ok rows, after)) :
    (createAndFetch account).run driver state =
      (first (.internal "insert returned no row") rows, after) := by
  rw [createAndFetch_eq, Program.run_answered answer, run_first]

end Store

/-! ## The codec -/

section

variable [Decodable α]

theorem listsRows_every (rows : List ResultRow) :
    ListsRows rows ((Store.every rows : Except AccountError (List α)).map .accounts) where
  ok_iff accounts := by
    rw [← mapM_ofRow?_eq_some_iff, Store.every]
    cases rows.mapM (Account.ofRow? : ResultRow → Option α) <;> simp [Except.map]
  ok all := by
    obtain ⟨found, decode⟩ := exists_forall₂_decodes_iff.2 all
    rw [Store.every, mapM_ofRow?_eq_some_iff.2 decode]
    exact ⟨found, rfl⟩
  error refused := by
    rw [Store.every, mapM_ofRow?_eq_none refused]
    rfl

theorem answersRows (rows : List ResultRow) :
    AnswersRows rows ((Store.every rows : Except AccountError (List α)).map .accounts)
      ((Store.first .notFound rows).map .account)
      ((Store.first (.internal "insert returned no row") rows).map .account) where
  every := listsRows_every rows
  first_same some := by
    cases rows with
    | nil => exact absurd rfl some
    | cons row rest => rfl
  first_iff row a head := by
    rw [← Decodable.ofRow?_eq_some_iff, Store.first, head, Option.elim_some]
    cases (Account.ofRow? row : Option α) <;> simp [Except.map]
  first_error row head refused := by
    rw [Store.first, head, Option.elim_some, ofRow?_eq_none refused]
    rfl
  empty none := by
    subst none
    exact ⟨rfl, rfl, rfl⟩

theorem decodesBySchema (row : ResultRow) : DecodesBySchema α row where
  exists_iff := exists_decodes_iff
  unique _ _ := Decodes.unique
  carries _ decodes _ := decodes.carried_eq
  others _ same _ := decodes_congr same

/-- Listings, look-ups and creations that return their row decode the same rows alike, on both
layers. -/
theorem one_codec (answers : ∀ s, (driver.query s state).1 = .ok rows) {layer : Layer}
    {timing : Timing} (inTime : layer.InTime timing) (stamp : Stamp) (page : Pagination)
    (filters : List Filter) (id : String) (account : α) :
    AnswersRows rows
        (((Request.list page filters : Request α).call layer).run driver timing stamp state).1
        (((Request.get id : Request α).call layer).run driver timing stamp state).1
        ((Call.store (.createAndFetch account)).run driver timing stamp state).1 ∧
      ∀ row, DecodesBySchema α row := by
  have answer : ∀ s, driver.query s state = (.ok rows, (driver.query s state).2) :=
    fun s => Prod.ext (answers s) rfl
  refine ⟨?_, decodesBySchema⟩
  rw [Request.run_call _ inTime, Request.run_call _ inTime]
  change AnswersRows rows ((Answer.accounts <$> Store.list page filters).run driver state).1
    ((Answer.account <$> Store.get id).run driver state).1
    ((Answer.account <$> Store.createAndFetch account).run driver state).1
  rw [Program.run_map, Program.run_map, Program.run_map, Store.run_list_of_answer (answer _),
    Store.run_get_of_answer (answer _), Store.run_createAndFetch_of_answer (answer _)]
  exact answersRows rows

end

/-- An administrator's row with a column too many and without a birth date. -/
def strayRow : ResultRow :=
  [("id", .text (some "a")), ("admin_order", .bigint (some 1)), ("role", .text (some "admin")),
   ("first_name", .text (some "")), ("last_name", .text (some "")),
   ("phone_number", .text (some "+1")), ("email", .text (some "a@example.com")),
   ("password", .text (some "")), ("gender", .text (some "")), ("salary", .float (some default)),
   ("biography", .text (some "")), ("work_years", .bigint (some 0)),
   ("refresh_token", .text (some "")), ("created_at", .timestamp (some .epoch)),
   ("nickname", .bool none)]

/-- A row whose salary is of another type. -/
def mistypedRow : ResultRow :=
  [("id", .text (some "b")), ("salary", .text (some "1"))]

/-- The first of the two rows decodes, so that it can be looked up; together they cannot be
listed. -/
theorem one_codec_stray_rows :
    let script : Script := ⟨[], [.ok [strayRow, mistypedRow]], []⟩
    (∀ s, (Script.driver.query s script).1 = .ok [strayRow, mistypedRow]) ∧
      (((Request.list .unlimited [] : Request Admin).call .service).run Script.driver ⟨0, 30000⟩
        ⟨"", .epoch⟩ script).1 = .error (.database .undecodable) ∧
      ∃ a : Admin, carried a .birthDate = .text (some "") ∧
        (((Request.get "a" : Request Admin).call .service).run Script.driver ⟨0, 30000⟩
          ⟨"", .epoch⟩ script).1 = .ok (.account a) := by
  intro script
  have answers : ∀ s, (Script.driver.query s script).1 = .ok [strayRow, mistypedRow] :=
    fun _ => rfl
  have inTime : Layer.InTime .service ⟨0, 30000⟩ := fun _ => by decide
  obtain ⟨reads, schema⟩ := one_codec (α := Admin) answers inTime ⟨"", .epoch⟩ .unlimited [] "a" {}
  obtain ⟨a, decodes⟩ := (schema strayRow).exists_iff.2 (by decide)
  have mistyped : ¬∃ a : Admin, Decodes a mistypedRow := fun found =>
    absurd ((schema mistypedRow).exists_iff.1 found) (by decide)
  have birthDate := (schema strayRow).carries a decodes
    ⟨.birthDate, .varchar (some 32), true, none⟩ (by decide) (by decide)
  exact ⟨answers, reads.every.error fun all => mistyped (all mistypedRow (by decide)), a,
    birthDate, (reads.first_iff strayRow a rfl).2 decodes⟩

end AccountStore

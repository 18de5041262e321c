import AccountStore.Migration
import AccountStore.Proofs.Account.Reading

/-!
# Decoding by the schema

A row of an answer decodes to an account if the account carries what the schema makes of each
column that reads return (`Account.Decodes`): the value of the row, if it is there with the type of
the column and not NULL; and without one the zero of the type, if the column is nullable. The two
readers of rows do just that (`ofRow?_eq_some_iff`), so that nothing but the columns that are not
nullable decides whether a row decodes (`exists_decodes_iff`).
-/

namespace AccountStore
open Calendar

/-! ## Columns -/

namespace ColumnType

/-- A value of the type that is not NULL. -/
def admits : ColumnType → Value → Bool
  | varchar _, .text v => v.isSome
  | text, .text v => v.isSome
  | bigint, .bigint v => v.isSome
  | bigserial, .bigint v => v.isSome
  | real, .float v => v.isSome
  | timestamp, .timestamp v => v.isSome
  | _, _ => false

/-- What an account carries for a missing value. -/
def zero : ColumnType → Value
  | varchar _ => .text (some "")
  | text => .text (some "")
  | bigint => .bigint (some 0)
  | bigserial => .bigint (some 0)
  | real => .float (some default)
  | timestamp => .timestamp (some .epoch)

def read? (row : ResultRow) (name : String) : ColumnType → Option Value
  | varchar _ => (row.text? name).map fun s => .text (some s)
  | text => (row.text? name).map fun s => .text (some s)
  | bigint => (row.bigint? name).map fun n => .bigint (some n)
  | bigserial => (row.bigint? name).map fun n => .bigint (some n)
  | real => (row.float? name).map fun x => .float (some x)
  | timestamp => (row.time? name).map fun time => .timestamp (some time)

theorem read?_eq (row : ResultRow) (name : String) (type : ColumnType) :
    type.read? row name = (row.value? name).filter type.admits := by
  cases type
  all_goals
    simp only [read?, ResultRow.text?, ResultRow.bigint?, ResultRow.float?, ResultRow.time?]
    cases row.value? name with
    | none => rfl
    | some v => rcases v with (_ | _) | (_ | _) | _ | _ | _ | (_ | _) | _ | (_ | _) <;> rfl

end ColumnType

namespace ColumnDefinition

variable (t : Table) (row : ResultRow)

/-- The value of the column in a row, if it is there with its type and not NULL. -/
def value? (d : ColumnDefinition) : Option Value :=
  (row.value? (d.column.name t)).filter d.type.admits

/-- What an account carries for the column; none if that is missing. -/
def decode? (d : ColumnDefinition) : Option Value :=
  if d.nullable then some ((d.value? t row).getD d.type.zero) else d.value? t row

theorem isSome_decode? (d : ColumnDefinition) :
    (d.decode? t row).isSome ↔ (d.nullable = false → (d.value? t row).isSome) := by
  unfold decode?
  cases d.nullable <;> simp

theorem value?_eq_read? (d : ColumnDefinition) :
    d.value? t row = d.type.read? row (d.column.name t) :=
  (d.type.read?_eq row (d.column.name t)).symm

theorem decode?_eq_read? (d : ColumnDefinition) :
    d.decode? t row = if d.nullable then
      some ((d.type.read? row (d.column.name t)).getD d.type.zero)
    else d.type.read? row (d.column.name t) := by
  rw [← value?_eq_read?]
  rfl

end ColumnDefinition

/-- Reads return every column but the deletion marker. -/
theorem Table.mem_projection_iff (t : Table) :
    ∀ d ∈ t.definitions, d.column ∈ t.projection ↔ d.column ≠ .deletedAt := by
  cases t <;> decide

theorem Table.forall_projected {t : Table} {P : ColumnDefinition → Prop} :
    (∀ d ∈ t.definitions, d.column ∈ t.projection → P d) ↔
      ∀ d ∈ t.definitions, d.column ≠ .deletedAt → P d :=
  forall₂_congr fun d member => by rw [t.mem_projection_iff d member]

/-- The value that an account carries, which is never NULL. -/
def Value.orZero : Value → Value
  | text v => .text (some (AccountStore.orZero v))
  | timestamp v => .timestamp (some (AccountStore.orZero v))
  | v => v

@[simp] theorem orZero_some {β : Type} [Inhabited β] (b : β) : orZero (some b) = b := rfl

namespace Account

variable {α : Type} [Account α]

def carried (a : α) (c : Column) : Value :=
  (cell a c).orZero

/-- The account carries what the schema makes of the columns that reads return. -/
def Decodes (a : α) (row : ResultRow) : Prop :=
  ∀ d ∈ (table α).definitions, d.column ∈ (table α).projection →
    d.decode? (table α) row = some (carried a d.column)

class Decodable (α : Type) [Account α] : Prop where
  ofRow?_eq_some_iff {row : ResultRow} {a : α} : ofRow? row = some a ↔ Decodes a row
  exists_decodes {row : ResultRow}
    (present : ∀ d ∈ (table α).definitions, d.column ∈ (table α).projection → d.nullable = false →
      (d.value? (table α) row).isSome) : ∃ a : α, Decodes a row

end Account

/-! ## The two kinds of accounts -/

@[simp] theorem getD_map_text (v : Option String) :
    (v.map fun s => Value.text (some s)).getD (.text (some "")) = .text (some (orZero v)) := by
  cases v <;> rfl

@[simp] theorem getD_map_timestamp (v : Option Instant) :
    (v.map fun time => Value.timestamp (some time)).getD (.timestamp (some .epoch)) =
      .timestamp (some (orZero v)) := by
  cases v <;> rfl

theorem User.decodes_iff {u : User} {row : ResultRow} :
    Account.Decodes u row ↔
      row.text? "id" = some u.id ∧ row.bigint? "user_order" = some u.ordinal ∧
      row.text? "first_name" = some u.firstName ∧ row.text? "last_name" = some u.lastName ∧
      orZero (row.text? "birth_date") = u.birthDate ∧
      row.text? "phone_number" = some u.phoneNumber ∧ row.text? "password" = some u.password ∧
      row.text? "gender" = some u.gender ∧ row.text? "refresh_token" = some u.refreshToken ∧
      row.time? "created_at" = some u.createdAt ∧
      orZero (row.time? "updated_at") = u.updatedAt := by
  have table : Account.table User = .users := rfl
  have cell : Account.cell u = u.cell := rfl
  rw [Account.Decodes, Table.forall_projected]
  simp only [table, Table.definitions, ColumnDefinition.decode?_eq_read?, ColumnType.read?,
    Account.carried, cell, User.cell, Column.name, Value.orZero, Value.ofNullableText,
    Value.ofNullableTime, ColumnType.zero, orZero_some, orZero_ofNullableText,
    orZero_ofNullableTime, getD_map_text, getD_map_timestamp, Value.text.injEq, Value.bigint.injEq,
    Value.timestamp.injEq, Option.map_eq_some_iff, Option.some.injEq, exists_eq_right,
    List.mem_cons, List.not_mem_nil, or_false, ne_eq, reduceCtorEq, not_true, not_false_eq_true,
    Bool.false_eq_true, ↓reduceIte, forall_eq_or_imp, forall_eq, forall_const, false_implies,
    and_true]

theorem User.ofRow?_eq_some_iff {row : ResultRow} {u : User} :
    ofRow? row = some u ↔ Account.Decodes u row := by
  rw [decodes_iff]
  constructor
  · intro decoded
    unfold ofRow? at decoded
    obtain ⟨_, id, decoded⟩ := Option.bind_eq_some_iff.1 decoded
    obtain ⟨_, ordinal, decoded⟩ := Option.bind_eq_some_iff.1 decoded
    obtain ⟨_, first, decoded⟩ := Option.bind_eq_some_iff.1 decoded
    obtain ⟨_, last, decoded⟩ := Option.bind_eq_some_iff.1 decoded
    obtain ⟨_, phone, decoded⟩ := Option.bind_eq_some_iff.1 decoded
    obtain ⟨_, password, decoded⟩ := Option.bind_eq_some_iff.1 decoded
    obtain ⟨_, gender, decoded⟩ := Option.bind_eq_some_iff.1 decoded
    obtain ⟨_, token, decoded⟩ := Option.bind_eq_some_iff.1 decoded
    obtain ⟨_, created, decoded⟩ := Option.bind_eq_some_iff.1 decoded
    cases decoded
    exact ⟨id, ordinal, first, last, rfl, phone, password, gender, token, created, rfl⟩
  · rintro ⟨id, ordinal, first, last, birth, phone, password, gender, token, created, updated⟩
    simp only [ofRow?, id, ordinal, first, last, birth, phone, password, gender, token, created,
      updated]
    rfl

theorem User.exists_decodes {row : ResultRow}
    (present : ∀ d ∈ Table.users.definitions, d.column ∈ Table.users.projection →
      d.nullable = false → (d.value? .users row).isSome) : ∃ u : User, Account.Decodes u row := by
  rw [Table.forall_projected] at present
  simp only [Table.definitions, ColumnDefinition.value?_eq_read?, ColumnType.read?, Column.name,
    List.mem_cons, List.not_mem_nil, or_false, forall_eq_or_imp, forall_eq, ne_eq, reduceCtorEq,
    not_true, not_false_eq_true, false_implies, forall_const, true_and, and_true,
    Bool.true_eq_false, Option.isSome_iff_exists, Option.map_eq_some_iff, ↓existsAndEq] at present
  obtain ⟨⟨_, id⟩, ⟨_, ordinal⟩, ⟨_, first⟩, ⟨_, last⟩, ⟨_, phone⟩, ⟨_, password⟩, ⟨_, gender⟩,
    ⟨_, token⟩, ⟨_, created⟩⟩ := present
  exact ⟨⟨_, _, _, _, _, _, _, _, _, _, _⟩, decodes_iff.2
    ⟨id, ordinal, first, last, rfl, phone, password, gender, token, created, rfl⟩⟩

theorem Admin.decodes_iff {a : Admin} {row : ResultRow} :
    Account.Decodes a row ↔
      row.text? "id" = some a.id ∧ row.bigint? "admin_order" = some a.ordinal ∧
      row.text? "role" = some a.role ∧
      row.text? "first_name" = some a.firstName ∧ row.text? "last_name" = some a.lastName ∧
      orZero (row.text? "birth_date") = a.birthDate ∧
      row.text? "phone_number" = some a.phoneNumber ∧ row.text? "email" = some a.email ∧
      row.text? "password" = some a.password ∧ row.text? "gender" = some a.gender ∧
      row.float? "salary" = some a.salary ∧ row.text? "biography" = some a.biography ∧
      orZero (row.text? "start_work_year") = a.startWorkYear ∧
      orZero (row.text? "end_work_year") = a.endWorkYear ∧
      row.bigint? "work_years" = some a.workYears ∧
      row.text? "refresh_token" = some a.refreshToken ∧
      row.time? "created_at" = some a.createdAt ∧
      orZero (row.time? "updated_at") = a.updatedAt := by
  have table : Account.table Admin = .admins := rfl
  have cell : Account.cell a = a.cell := rfl
  rw [Account.Decodes, Table.forall_projected]
  simp only [table, Table.definitions, ColumnDefinition.decode?_eq_read?, ColumnType.read?,
    Account.carried, cell, Admin.cell, Column.name, Value.orZero, Value.ofNullableText,
    Value.ofNullableTime, ColumnType.zero, orZero_some, orZero_ofNullableText,
    orZero_ofNullableTime, getD_map_text, getD_map_timestamp, Value.text.injEq, Value.bigint.injEq,
    Value.float.injEq, Value.timestamp.injEq, Option.map_eq_some_iff, Option.some.injEq, exists_eq_right,
    List.mem_cons, List.not_mem_nil, or_false, ne_eq, reduceCtorEq, not_true, not_false_eq_true,
    Bool.false_eq_true, ↓reduceIte, forall_eq_or_imp, forall_eq, forall_const, false_implies,
    and_true]

theorem Admin.ofRow?_eq_some_iff {row : ResultRow} {a : Admin} :
    ofRow? row = some a ↔ Account.Decodes a row := by
  rw [decodes_iff]
  constructor
  · intro decoded
    unfold ofRow? at decoded
    obtain ⟨_, id, decoded⟩ := Option.bind_eq_some_iff.1 decoded
    obtain ⟨_, ordinal, decoded⟩ := Option.bind_eq_some_iff.1 decoded
    obtain ⟨_, role, decoded⟩ := Option.bind_eq_some_iff.1 decoded
    obtain ⟨_, first, decoded⟩ := Option.bind_eq_some_iff.1 decoded
    obtain ⟨_, last, decoded⟩ := Option.bind_eq_some_iff.1 decoded
    obtain ⟨_, phone, decoded⟩ := Option.bind_eq_some_iff.1 decoded
    obtain ⟨_, email, decoded⟩ := Option.bind_eq_some_iff.1 decoded
    obtain ⟨_, password, decoded⟩ := Option.bind_eq_some_iff.1 decoded
    obtain ⟨_, gender, decoded⟩ := Option.bind_eq_some_iff.1 decoded
    obtain ⟨_, salary, decoded⟩ := Option.bind_eq_some_iff.1 decoded
    obtain ⟨_, biography, decoded⟩ := Option.bind_eq_some_iff.1 decoded
    obtain ⟨_, years, decoded⟩ := Option.bind_eq_some_iff.1 decoded
    obtain ⟨_, token, decoded⟩ := Option.bind_eq_some_iff.1 decoded
    obtain ⟨_, created, decoded⟩ := Option.bind_eq_some_iff.1 decoded
    cases decoded
    exact ⟨id, ordinal, role, first, last, rfl, phone, email, password, gender, salary, biography,
      rfl, rfl, years, token, created, rfl⟩
  · rintro ⟨id, ordinal, role, first, last, birth, phone, email, password, gender, salary,
      biography, start, finish, years, token, created, updated⟩
    simp only [ofRow?, id, ordinal, role, first, last, birth, phone, email, password, gender,
      salary, biography, start, finish, years, token, created, updated]
    rfl

theorem Admin.exists_decodes {row : ResultRow}
    (present : ∀ d ∈ Table.admins.definitions, d.column ∈ Table.admins.projection →
      d.nullable = false → (d.value? .admins row).isSome) : ∃ a : Admin, Account.Decodes a row := by
  rw [Table.forall_projected] at present
  simp only [Table.definitions, ColumnDefinition.value?_eq_read?, ColumnType.read?, Column.name,
    List.mem_cons, List.not_mem_nil, or_false, forall_eq_or_imp, forall_eq, ne_eq, reduceCtorEq,
    not_true, not_false_eq_true, false_implies, forall_const, true_and, and_true,
    Bool.true_eq_false, Option.isSome_iff_exists, Option.map_eq_some_iff, ↓existsAndEq] at present
  obtain ⟨⟨_, id⟩, ⟨_, ordinal⟩, ⟨_, role⟩, ⟨_, first⟩, ⟨_, last⟩, ⟨_, phone⟩, ⟨_, email⟩,
    ⟨_, password⟩, ⟨_, gender⟩, ⟨_, salary⟩, ⟨_, biography⟩, ⟨_, years⟩, ⟨_, token⟩,
    ⟨_, created⟩⟩ := present
  exact ⟨⟨_, _, _, _, _, _, _, _, _, _, _, _, _, _, _, _, _, _⟩, decodes_iff.2
    ⟨id, ordinal, role, first, last, rfl, phone, email, password, gender, salary, biography, rfl,
      rfl, years, token, created, rfl⟩⟩

instance : Account.Decodable User where
  ofRow?_eq_some_iff := User.ofRow?_eq_some_iff
  exists_decodes := User.exists_decodes

instance : Account.Decodable Admin where
  ofRow?_eq_some_iff := Admin.ofRow?_eq_some_iff
  exists_decodes := Admin.exists_decodes

/-! ## Which rows decode, and to what -/

namespace Account
open Decodable

variable {α : Type} [Account α] {a b : α} {row other : ResultRow}

/-- Nothing but the columns that reads return matters. -/
theorem decodes_congr
    (same : ∀ c ∈ (table α).projection, row.value? (c.name (table α)) =
      other.value? (c.name (table α))) : Decodes a row ↔ Decodes a other := by
  refine forall_congr' fun d => forall_congr' fun _ => forall_congr' fun member => ?_
  unfold ColumnDefinition.decode? ColumnDefinition.value?
  rw [same d.column member]

/-- An account carries the value that the row has, and the zero of the type without one. -/
theorem Decodes.carried_eq (decodes : Decodes a row) {d : ColumnDefinition}
    (defined : d ∈ (table α).definitions) (member : d.column ∈ (table α).projection) :
    carried a d.column = (d.value? (table α) row).getD d.type.zero := by
  have read := decodes d defined member
  unfold ColumnDefinition.decode? at read
  split at read
  · exact (Option.some.inj read).symm
  · rw [read]
    rfl

theorem exists_forall₂_decodes_iff {rows : List ResultRow} :
    (∃ accounts : List α, List.Forall₂ Decodes accounts rows) ↔
      ∀ row ∈ rows, ∃ a : α, Decodes a row := by
  induction rows with
  | nil => simp
  | cons row rest ih =>
      rw [List.forall_mem_cons, ← ih]
      constructor
      · rintro ⟨accounts, decodes⟩
        obtain ⟨a, later, first, rest, rfl⟩ := List.forall₂_cons_right_iff.1 decodes
        exact ⟨⟨a, first⟩, later, rest⟩
      · rintro ⟨⟨a, first⟩, accounts, later⟩
        exact ⟨a :: accounts, .cons first later⟩

section

variable [Decodable α]

theorem Decodes.unique (decodesA : Decodes a row) (decodesB : Decodes b row) : a = b :=
  Option.some.inj ((ofRow?_eq_some_iff.2 decodesA).symm.trans (ofRow?_eq_some_iff.2 decodesB))

theorem exists_decodes_iff :
    (∃ a : α, Decodes a row) ↔
      ∀ d ∈ (table α).definitions, d.column ∈ (table α).projection → d.nullable = false →
        (d.value? (table α) row).isSome := by
  constructor
  · rintro ⟨a, decodes⟩ d defined member
    refine (d.isSome_decode? (table α) row).1 ?_
    rw [decodes d defined member]
    rfl
  · exact exists_decodes

theorem ofRow?_eq_none (refused : ¬∃ a : α, Decodes a row) : (ofRow? row : Option α) = none :=
  Option.eq_none_iff_forall_ne_some.2 fun a decoded => refused ⟨a, ofRow?_eq_some_iff.1 decoded⟩

/-- A list of rows decodes row by row, or not at all. -/
theorem mapM_ofRow?_eq_some_iff {accounts : List α} {rows : List ResultRow} :
    rows.mapM ofRow? = some accounts ↔ List.Forall₂ Decodes accounts rows := by
  induction rows generalizing accounts with
  | nil => simp [eq_comm]
  | cons row rest ih =>
      simp only [List.mapM_cons, Option.bind_eq_bind, Option.bind_eq_some_iff, ih,
        ofRow?_eq_some_iff, List.forall₂_cons_right_iff]
      constructor
      · rintro ⟨a, first, later, decoded, ⟨⟩⟩
        exact ⟨a, later, first, decoded, rfl⟩
      · rintro ⟨a, later, first, decoded, rfl⟩
        exact ⟨a, first, later, decoded, rfl⟩

theorem mapM_ofRow?_eq_none {rows : List ResultRow}
    (refused : ¬∀ row ∈ rows, ∃ a : α, Decodes a row) :
    rows.mapM (ofRow? : ResultRow → Option α) = none :=
  Option.eq_none_iff_forall_ne_some.2 fun accounts decoded =>
    refused (exists_forall₂_decodes_iff.1 ⟨accounts, mapM_ofRow?_eq_some_iff.1 decoded⟩)

end
end Account
end AccountStore

import AccountStore.Proofs.Table.Row
import AccountStore.Store

/-!
# Lawful accounts

What the two kinds of accounts have in common: the cell of the identifier holds it, every cell is
of its column's type, and a typed row decodes. The laws are stated once, so that what follows holds
of users and administrators alike.
-/

namespace AccountStore
open Calendar Memory

class Account.Lawful (α : Type) [Account α] : Prop where
  cell_id (a : α) : Account.cell a .id = .text (some (Account.id a))
  holds_cell (a : α) : ∀ c ∈ (Account.table α).projection, c.Holds (Account.cell a c).stored
  exists_ofRow (row : Row) (typed : row.Typed (Account.table α)) :
    ∃ a : α, Account.ofRow? (row.project (Account.table α) (Account.table α).projection) = some a

/-! ## Reading a projected row -/

theorem Table.find_name (t : Table) :
    ∀ c ∈ t.projection, (t.projection.find? fun d => d.name t == c.name t) = some c := by
  cases t <;> decide

namespace Memory.Row

variable {t : Table} {c : Column} {row : Row}

theorem value_project (member : c ∈ t.projection) :
    (row.project t t.projection).value? (c.name t) = some (row c) := by
  unfold ResultRow.value? project
  rw [List.find?_map, Function.comp_def]
  simp only [t.find_name c member, Option.map_some]

theorem text?_project (member : c ∈ t.projection) {v : Option String} (holds : row c = .text v) :
    (row.project t t.projection).text? (c.name t) = v := by
  rw [ResultRow.text?, value_project member, holds]

theorem bigint?_project (member : c ∈ t.projection) {v : Option Int} (holds : row c = .bigint v) :
    (row.project t t.projection).bigint? (c.name t) = v := by
  rw [ResultRow.bigint?, value_project member, holds]

theorem float?_project (member : c ∈ t.projection) {v : Option Number.Real32}
    (holds : row c = .float v) : (row.project t t.projection).float? (c.name t) = v := by
  rw [ResultRow.float?, value_project member, holds]

theorem time?_project (member : c ∈ t.projection) {v : Option Instant}
    (holds : row c = .timestamp v) : (row.project t t.projection).time? (c.name t) = v := by
  rw [ResultRow.time?, value_project member, holds]

end Memory.Row

theorem orZero_ofNullableText (s : String) : orZero (if s = "" then none else some s) = s := by
  split
  next empty => exact empty.symm
  next => rfl

theorem orZero_ofNullableTime (t : Instant) : orZero (if t = .epoch then none else some t) = t := by
  split
  next epoch => exact epoch.symm
  next => rfl

/-! ## The two kinds of accounts -/

theorem User.holds_cell (u : User) : ∀ c ∈ Table.users.projection, c.Holds (u.cell c).stored := by
  intro c member
  cases c
  case role | email | salary | biography | startWorkYear | endWorkYear | workYears | deletedAt =>
    exact absurd member (by decide)
  all_goals exact ⟨_, rfl⟩

theorem Admin.holds_cell (a : Admin) :
    ∀ c ∈ Table.admins.projection, c.Holds (a.cell c).stored := by
  intro c member
  cases c
  case deletedAt => exact absurd member (by decide)
  all_goals exact ⟨_, rfl⟩

theorem User.ofRow?_of_cells {u : User} {row : Row}
    (cells : ∀ c ∈ Table.users.projection, u.cell c = row c) :
    User.ofRow? (row.project .users Table.users.projection) = some u := by
  have id := Row.text?_project (t := .users) (by decide) (cells .id (by decide)).symm
  have ordinal := Row.bigint?_project (t := .users) (by decide) (cells .ordinal (by decide)).symm
  have first := Row.text?_project (t := .users) (by decide) (cells .firstName (by decide)).symm
  have last := Row.text?_project (t := .users) (by decide) (cells .lastName (by decide)).symm
  have birth := Row.text?_project (t := .users) (by decide) (cells .birthDate (by decide)).symm
  have phone := Row.text?_project (t := .users) (by decide) (cells .phoneNumber (by decide)).symm
  have password := Row.text?_project (t := .users) (by decide) (cells .password (by decide)).symm
  have gender := Row.text?_project (t := .users) (by decide) (cells .gender (by decide)).symm
  have token := Row.text?_project (t := .users) (by decide) (cells .refreshToken (by decide)).symm
  have created := Row.time?_project (t := .users) (by decide) (cells .createdAt (by decide)).symm
  have updated := Row.time?_project (t := .users) (by decide) (cells .updatedAt (by decide)).symm
  simp only [Column.name] at id ordinal first last birth phone password gender token created updated
  simp only [User.ofRow?, id, ordinal, first, last, birth, phone, password, gender, token, created,
    updated, orZero_ofNullableText, orZero_ofNullableTime]
  rfl

theorem User.exists_cells {row : Row} (typed : row.Typed .users) :
    ∃ u : User, ∀ c ∈ Table.users.projection, u.cell c = row c := by
  obtain ⟨id, hid⟩ := typed .id (by decide)
  obtain ⟨ordinal, hordinal⟩ := typed .ordinal (by decide)
  obtain ⟨firstName, hfirst⟩ := typed .firstName (by decide)
  obtain ⟨lastName, hlast⟩ := typed .lastName (by decide)
  obtain ⟨birthDate, hbirth⟩ := typed .birthDate (by decide)
  obtain ⟨phoneNumber, hphone⟩ := typed .phoneNumber (by decide)
  obtain ⟨password, hpassword⟩ := typed .password (by decide)
  obtain ⟨gender, hgender⟩ := typed .gender (by decide)
  obtain ⟨refreshToken, htoken⟩ := typed .refreshToken (by decide)
  obtain ⟨createdAt, hcreated⟩ := typed .createdAt (by decide)
  obtain ⟨updatedAt, hupdated⟩ := typed .updatedAt (by decide)
  refine ⟨⟨id, ordinal, firstName, lastName, birthDate, phoneNumber, password, gender, refreshToken,
    createdAt, updatedAt⟩, fun c member => Eq.symm ?_⟩
  cases c
  case role | email | salary | biography | startWorkYear | endWorkYear | workYears | deletedAt =>
    exact absurd member (by decide)
  all_goals assumption

theorem Admin.ofRow?_of_cells {a : Admin} {row : Row}
    (cells : ∀ c ∈ Table.admins.projection, a.cell c = row c) :
    Admin.ofRow? (row.project .admins Table.admins.projection) = some a := by
  have id := Row.text?_project (t := .admins) (by decide) (cells .id (by decide)).symm
  have ordinal := Row.bigint?_project (t := .admins) (by decide) (cells .ordinal (by decide)).symm
  have role := Row.text?_project (t := .admins) (by decide) (cells .role (by decide)).symm
  have first := Row.text?_project (t := .admins) (by decide) (cells .firstName (by decide)).symm
  have last := Row.text?_project (t := .admins) (by decide) (cells .lastName (by decide)).symm
  have birth := Row.text?_project (t := .admins) (by decide) (cells .birthDate (by decide)).symm
  have phone := Row.text?_project (t := .admins) (by decide) (cells .phoneNumber (by decide)).symm
  have email := Row.text?_project (t := .admins) (by decide) (cells .email (by decide)).symm
  have password := Row.text?_project (t := .admins) (by decide) (cells .password (by decide)).symm
  have gender := Row.text?_project (t := .admins) (by decide) (cells .gender (by decide)).symm
  have salary := Row.float?_project (t := .admins) (by decide) (cells .salary (by decide)).symm
  have biography := Row.text?_project (t := .admins) (by decide) (cells .biography (by decide)).symm
  have start := Row.text?_project (t := .admins) (by decide) (cells .startWorkYear (by decide)).symm
  have finish := Row.text?_project (t := .admins) (by decide) (cells .endWorkYear (by decide)).symm
  have years := Row.bigint?_project (t := .admins) (by decide) (cells .workYears (by decide)).symm
  have token := Row.text?_project (t := .admins) (by decide) (cells .refreshToken (by decide)).symm
  have created := Row.time?_project (t := .admins) (by decide) (cells .createdAt (by decide)).symm
  have updated := Row.time?_project (t := .admins) (by decide) (cells .updatedAt (by decide)).symm
  simp only [Column.name] at id ordinal role first last birth phone email password
  simp only [Column.name] at gender salary biography start finish years token created updated
  simp only [Admin.ofRow?, id, ordinal, role, first, last, birth, phone, email, password, gender,
    salary, biography, start, finish, years, token, created, updated, orZero_ofNullableText,
    orZero_ofNullableTime]
  rfl

theorem Admin.exists_cells {row : Row} (typed : row.Typed .admins) :
    ∃ a : Admin, ∀ c ∈ Table.admins.projection, a.cell c = row c := by
  obtain ⟨id, hid⟩ := typed .id (by decide)
  obtain ⟨ordinal, hordinal⟩ := typed .ordinal (by decide)
  obtain ⟨role, hrole⟩ := typed .role (by decide)
  obtain ⟨firstName, hfirst⟩ := typed .firstName (by decide)
  obtain ⟨lastName, hlast⟩ := typed .lastName (by decide)
  obtain ⟨birthDate, hbirth⟩ := typed .birthDate (by decide)
  obtain ⟨phoneNumber, hphone⟩ := typed .phoneNumber (by decide)
  obtain ⟨email, hemail⟩ := typed .email (by decide)
  obtain ⟨password, hpassword⟩ := typed .password (by decide)
  obtain ⟨gender, hgender⟩ := typed .gender (by decide)
  obtain ⟨salary, hsalary⟩ := typed .salary (by decide)
  obtain ⟨biography, hbiography⟩ := typed .biography (by decide)
  obtain ⟨startWorkYear, hstart⟩ := typed .startWorkYear (by decide)
  obtain ⟨endWorkYear, hend⟩ := typed .endWorkYear (by decide)
  obtain ⟨workYears, hyears⟩ := typed .workYears (by decide)
  obtain ⟨refreshToken, htoken⟩ := typed .refreshToken (by decide)
  obtain ⟨createdAt, hcreated⟩ := typed .createdAt (by decide)
  obtain ⟨updatedAt, hupdated⟩ := typed .updatedAt (by decide)
  refine ⟨⟨id, ordinal, role, firstName, lastName, birthDate, phoneNumber, email, password, gender,
    salary.dropZeroSign, biography, startWorkYear, endWorkYear, workYears, refreshToken, createdAt,
    updatedAt⟩, fun c member => Eq.symm ?_⟩
  cases c
  case deletedAt => exact absurd member (by decide)
  all_goals assumption

instance : Account.Lawful User where
  cell_id _ := rfl
  holds_cell := User.holds_cell
  exists_ofRow _ typed := (User.exists_cells typed).imp fun _ => User.ofRow?_of_cells

instance : Account.Lawful Admin where
  cell_id _ := rfl
  holds_cell := Admin.holds_cell
  exists_ofRow _ typed := (Admin.exists_cells typed).imp fun _ => Admin.ofRow?_of_cells

theorem Account.Lawful.exists_text {α : Type} [Account α] [Account.Lawful α] (a : α) {c : Column}
    (unique : c ∈ (Account.table α).liveUnique) : ∃ s, Account.cell a c = .text (some s) := by
  have written : c ∈ (Account.table α).projection := by
    revert c
    cases Account.table α <;> decide
  obtain ⟨s, stored⟩ := Column.exists_text_of_liveUnique unique (holds_cell a c written)
  cases value : Account.cell a c <;> simp_all [Value.stored]

theorem Account.Lawful.stored_of_unique {α : Type} [Account α] [Account.Lawful α] (a : α)
    {c : Column} (unique : c ∈ (Account.table α).liveUnique) :
    (Account.cell a c).stored = Account.cell a c := by
  obtain ⟨s, text⟩ := exists_text a unique
  rw [text]
  rfl

end AccountStore

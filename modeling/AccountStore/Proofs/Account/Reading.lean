import AccountStore.Proofs.Account.Lawful
import Mathlib.Data.List.Forall2

/-!
# Reading accounts back

An account reads a row if it has the row's values in all columns that reads return. Such an account
is what the row decodes to, and every typed row has one (`exists_reading`); so the rows of a sound
table decode one by one, in their order (`mapM_of_reads`).
-/

namespace AccountStore
open Memory

/-- The account has the values of the row. -/
def Account.Reads {α : Type} [Account α] (a : α) (row : Row) : Prop :=
  ∀ c ∈ (Account.table α).projection, Account.cell a c = row c

class Account.Readable (α : Type) [Account α] extends Account.Lawful α where
  ordinal : α → Int
  /-- The text of a column that may be checked for a value. -/
  text : α → Column → String
  cell_ordinal (a : α) : Account.cell a .ordinal = .bigint (some (ordinal a))
  cell_checkable (a : α) : ∀ c ∈ (Account.table α).checkable, Account.cell a c =
    if c = .birthDate then .ofNullableText (text a c) else .text (some (text a c))
  ofRow?_of_reads {a : α} {row : Row} (reads : Account.Reads a row) :
    Account.ofRow? (row.project (Account.table α) (Account.table α).projection) = some a
  exists_reads {row : Row} (typed : row.Typed (Account.table α)) : ∃ a : α, Account.Reads a row

/-! ## The two kinds of accounts -/

/-- The text of a column that may be checked; the other columns have none. -/
def User.text (u : User) : Column → String
  | .id => u.id
  | .firstName => u.firstName
  | .lastName => u.lastName
  | .birthDate => u.birthDate
  | .phoneNumber => u.phoneNumber
  | .gender => u.gender
  | .refreshToken => u.refreshToken
  | _ => ""

def Admin.text (a : Admin) : Column → String
  | .id => a.id
  | .role => a.role
  | .firstName => a.firstName
  | .lastName => a.lastName
  | .birthDate => a.birthDate
  | .phoneNumber => a.phoneNumber
  | .email => a.email
  | .gender => a.gender
  | .refreshToken => a.refreshToken
  | _ => ""

theorem User.cell_checkable (u : User) : ∀ c ∈ Table.users.checkable, u.cell c =
    if c = .birthDate then .ofNullableText (u.text c) else .text (some (u.text c)) := by
  simp [Table.checkable, cell, text]

theorem Admin.cell_checkable (a : Admin) : ∀ c ∈ Table.admins.checkable, a.cell c =
    if c = .birthDate then .ofNullableText (a.text c) else .text (some (a.text c)) := by
  simp [Table.checkable, cell, text]

instance : Account.Readable User where
  ordinal := User.ordinal
  text := User.text
  cell_ordinal _ := rfl
  cell_checkable := User.cell_checkable
  ofRow?_of_reads := User.ofRow?_of_cells
  exists_reads := User.exists_cells

instance : Account.Readable Admin where
  ordinal := Admin.ordinal
  text := Admin.text
  cell_ordinal _ := rfl
  cell_checkable := Admin.cell_checkable
  ofRow?_of_reads := Admin.ofRow?_of_cells
  exists_reads := Admin.exists_cells

/-! ## What an account says about its row -/

namespace Account
open Readable

variable {α : Type} [Account α] [Readable α] {a : α} {row : Row}

theorem Reads.id (reads : Reads a row) : row .id = .text (some (Account.id a)) := by
  rw [← Lawful.cell_id a]
  exact (reads .id (by cases table α <;> decide)).symm

theorem Reads.ordinal (reads : Reads a row) : row .ordinal = .bigint (some (ordinal a)) := by
  rw [← cell_ordinal a]
  exact (reads .ordinal (by cases table α <;> decide)).symm

theorem Reads.checkable (reads : Reads a row) {c : Column} (member : c ∈ (table α).checkable) :
    row c = if c = .birthDate then .ofNullableText (text a c) else .text (some (text a c)) := by
  rw [← cell_checkable a c member]
  refine (reads c ?_).symm
  revert c
  cases table α <;> decide

theorem mapM_of_reads {accounts : List α} {rows : List Row}
    (reads : List.Forall₂ Reads accounts rows) :
    (rows.map (Row.project (table α) (table α).projection)).mapM ofRow? = some accounts := by
  induction reads with
  | nil => rfl
  | cons first rest ih =>
      rw [List.map_cons, List.mapM_cons, ofRow?_of_reads first, ih]
      rfl

theorem exists_reading {rows : List Row} (typed : ∀ row ∈ rows, row.Typed (table α)) :
    ∃ accounts : List α, List.Forall₂ Reads accounts rows := by
  induction rows with
  | nil => exact ⟨[], .nil⟩
  | cons row rest ih =>
      obtain ⟨a, first⟩ : ∃ a : α, Reads a row := exists_reads (typed row List.mem_cons_self)
      obtain ⟨accounts, reads⟩ := ih fun row member => typed row (List.mem_cons_of_mem _ member)
      exact ⟨a :: accounts, .cons first reads⟩

end Account
end AccountStore

import AccountStore.Proofs.Account.Reading
import AccountStore.Proofs.Operation.Change

/-!
# Accounts in new and in updated rows

A new row reads as the account it was made from, with the ordinal that the table gives it and
without a time of update (`reads_ofCells`). An updated row reads as the account that was written,
with what updates leave alone (`Reads.updated`). A row that is updated with the account that it
reads as stays what it is (`Reads.updated_eq`).
-/

namespace AccountStore
open Calendar Memory

class Account.Revisable (α : Type) [Account α] extends Account.Readable α where
  /-- As a row reads back what it was given. -/
  asStored : α → α
  /-- With an ordinal, and never updated. -/
  asNew : Int → α → α
  /-- In the row of an older account. -/
  replacing : α → α → α
  cell_asStored (a : α) (c : Column) : Account.cell (asStored a) c = (Account.cell a c).stored
  cell_asNew (n : Int) (a : α) (c : Column) : Account.cell (asNew n a) c =
    if c = .ordinal then .bigint (some n) else if c = .updatedAt then .timestamp none
    else Account.cell a c
  cell_replacing (old a : α) (c : Column) : Account.cell (replacing old a) c =
    if c ∈ [Column.ordinal, .createdAt, .refreshToken] then Account.cell old c
    else Account.cell a c
  cell_touch (now : Instant) (a : α) (c : Column) : Account.cell (Account.touch now a) c =
    if c = .updatedAt then .ofNullableTime now else Account.cell a c
  assignIdentity_asNew (stamp : Stamp) (n : Int) (a : α) :
    Account.assignIdentity stamp (asNew n a) = asNew n (Account.assignIdentity stamp a)
  guard_asNew (n : Int) (a : α) : Account.guard (asNew n a) = Account.guard a
  /-- What must not exist already holds one of the contact details. -/
  exists_of_guard (a : α) {row : Row}
    (found : row.matchesContact (Account.predicate (Account.guard a)) = true) :
    ∃ c ∈ (Account.table α).liveUnique, row c = Account.cell a c
  violations_asNew (n : Int) (a : α) : Account.violations (asNew n a) = Account.violations a
  violations_replacing (old a : α) : Account.violations (replacing old a) = Account.violations a

/-! ## The two kinds of accounts -/

def User.asNew (n : Int) (u : User) : User :=
  { u with ordinal := n, updatedAt := .epoch }

def User.replacing (old u : User) : User :=
  { u with ordinal := old.ordinal, createdAt := old.createdAt, refreshToken := old.refreshToken }

/-- A stored salary of zero has no sign. -/
def Admin.asStored (a : Admin) : Admin :=
  { a with salary := a.salary.dropZeroSign }

def Admin.asNew (n : Int) (a : Admin) : Admin :=
  { a with ordinal := n, updatedAt := .epoch }

def Admin.replacing (old a : Admin) : Admin :=
  { a with ordinal := old.ordinal, createdAt := old.createdAt, refreshToken := old.refreshToken }

theorem User.matches_guard {u : User} {row : Row} :
    row.matchesContact (Account.predicate (Account.guard u)) = true ↔
      row .phoneNumber = .text (some u.phoneNumber) :=
  Value.same_text

theorem Admin.matches_guard {a : Admin} {row : Row} :
    row.matchesContact (Account.predicate (Account.guard a)) = true ↔
      row .phoneNumber = .text (some a.phoneNumber) ∧ row .email = .text (some a.email) := by
  show (_ && _) = true ↔ _
  rw [Bool.and_eq_true, Value.same_text, Value.same_text]
  rfl

instance : Account.Revisable User where
  asStored := id
  asNew := User.asNew
  replacing := User.replacing
  cell_asStored u c := by cases c <;> rfl
  cell_asNew n u c := by cases c <;> rfl
  cell_replacing old u c := by cases c <;> rfl
  cell_touch now u c := by cases c <;> rfl
  assignIdentity_asNew _ _ _ := rfl
  guard_asNew _ _ := rfl
  exists_of_guard _ _ found := ⟨.phoneNumber, by decide, User.matches_guard.1 found⟩
  violations_asNew _ _ := rfl
  violations_replacing _ _ := rfl

instance : Account.Revisable Admin where
  asStored := Admin.asStored
  asNew := Admin.asNew
  replacing := Admin.replacing
  cell_asStored a c := by cases c <;> rfl
  cell_asNew n a c := by cases c <;> rfl
  cell_replacing old a c := by cases c <;> rfl
  cell_touch now a c := by cases c <;> rfl
  assignIdentity_asNew _ _ _ := rfl
  guard_asNew _ _ := rfl
  exists_of_guard _ _ found := ⟨.phoneNumber, by decide, (Admin.matches_guard.1 found).1⟩
  violations_asNew _ _ := rfl
  violations_replacing _ _ := rfl

namespace Account
open Readable Revisable

variable {α : Type} [Account α]

/-! ## Accounts that agree -/

/-- The accounts have the same values but in some columns. -/
def DifferAtMost (columns : List Column) (a b : α) : Prop :=
  ∀ c ∈ (table α).projection, c ∉ columns → cell a c = cell b c

/-- Rows read back what they were given of the account. -/
def ReadsBack (a : α) : Prop :=
  ∀ c ∈ (table α).projection, (cell a c).stored = cell a c

theorem eq_of_cells [Readable α] {a b : α}
    (same : ∀ c ∈ (table α).projection, cell a c = cell b c) : a = b := by
  let row : Row := fun c => cell b c
  have readsA : Reads a row := same
  have readsB : Reads b row := fun _ _ => rfl
  exact Option.some.inj ((ofRow?_of_reads readsA).symm.trans (ofRow?_of_reads readsB))

theorem id_eq_of_cell [Lawful α] {a b : α} (same : cell a .id = cell b .id) :
    Account.id a = Account.id b := by
  rw [Lawful.cell_id, Lawful.cell_id] at same
  exact Option.some.inj (Value.text.inj same)

theorem DifferAtMost.cells_eq {a b : α} {columns written : List Column}
    (same : DifferAtMost columns a b) (read : ∀ c ∈ written, c ∈ (table α).projection)
    (apart : ∀ c ∈ written, c ∉ columns) :
    Store.cells written a = Store.cells written b :=
  List.map_congr_left fun c member => by rw [same c (read c member) (apart c member)]

theorem DifferAtMost.id_eq [Lawful α] {a b : α} {columns : List Column}
    (same : DifferAtMost columns a b) (apart : .id ∉ columns) : Account.id a = Account.id b :=
  id_eq_of_cell (same .id (by cases table α <;> decide) apart)

section

variable [Revisable α] {a b : α}

@[simp] theorem id_asStored (a : α) : Account.id (asStored a) = Account.id a :=
  id_eq_of_cell (by rw [cell_asStored, Lawful.cell_id]; rfl)

@[simp] theorem id_asNew (n : Int) (a : α) : Account.id (asNew n a) = Account.id a :=
  id_eq_of_cell (cell_asNew n a .id)

@[simp] theorem id_replacing (old a : α) : Account.id (replacing old a) = Account.id a :=
  id_eq_of_cell (cell_replacing old a .id)

@[simp] theorem id_touch (now : Instant) (a : α) : Account.id (touch now a) = Account.id a :=
  id_eq_of_cell (cell_touch now a .id)

theorem ReadsBack.asStored_eq (given : ReadsBack a) : asStored a = a :=
  eq_of_cells fun c member => (cell_asStored a c).trans (given c member)

theorem differAtMost_asNew_iff (n : Int) :
    asNew n a = asNew n b ↔ DifferAtMost [.ordinal, .updatedAt] a b := by
  constructor
  · intro same c _ other
    have apart : c ≠ .ordinal ∧ c ≠ .updatedAt := by simpa using other
    have cells := congrArg (cell · c) same
    simpa only [cell_asNew, if_neg apart.1, if_neg apart.2] using cells
  · intro same
    refine eq_of_cells fun c member => ?_
    rw [cell_asNew, cell_asNew]
    split
    · rfl
    · split
      · rfl
      · exact same c member (by simp [*])

theorem DifferAtMost.replacing_eq
    (same : DifferAtMost [.ordinal, .createdAt, .refreshToken] a b) (old : α) :
    replacing old a = replacing old b := by
  refine eq_of_cells fun c member => ?_
  rw [cell_replacing, cell_replacing]
  split
  · rfl
  · exact same c member ‹_›

theorem DifferAtMost.touch
    (same : DifferAtMost [.ordinal, .createdAt, .refreshToken, .updatedAt] a b) (now : Instant) :
    DifferAtMost [.ordinal, .createdAt, .refreshToken] (touch now a) (touch now b) := by
  intro c member other
  rw [cell_touch, cell_touch]
  split
  · rfl
  · exact same c member (by simp_all)

end

end Account

/-! ## Rows -/

section

open Account

variable {α : Type} [Account α] {row : Row} {a : α}

/-- What an update makes of the row of its account. -/
def Memory.Row.updated (row : Row) (now : Instant) (a : α) : Row :=
  row.assign now ((Store.cells (table α).updatable a).map fun cell => (cell.1, .value cell.2))

theorem Memory.Row.isLive_updated (row : Row) (now : Instant) (a : α) :
    (row.updated now a).isLive = row.isLive := by
  have marker : .deletedAt ∉ (table α).updatable := by
    cases table α <;> decide
  exact congrArg Value.isNull (Store.assign_of_notMem marker)

namespace Account
open Readable Revisable

/-- A typed row stays as it is when it is updated with what it reads as. -/
theorem Reads.updated_eq (reads : Reads a row) (typed : row.Typed (table α)) (now : Instant) :
    row.updated now a = row := by
  funext c
  unfold Row.updated
  by_cases updatable : c ∈ (table α).updatable
  · have member := (List.mem_filter.1 updatable).1
    rw [Store.assign_cells updatable, reads c member]
    exact (typed c (List.mem_append_left _ member)).stored_eq
  · exact Store.assign_of_notMem updatable

variable [Revisable α]

theorem reads_ofCells (n : Nat) (a : α) :
    Reads (asNew n (asStored a)) (Row.ofCells n (Store.cells (table α).insertable a)) := by
  intro c member
  rw [cell_asNew]
  split
  · subst c
    rfl
  · split
    · have absent : Column.updatedAt ∉ (table α).insertable := by cases table α <;> decide
      subst c
      exact (Store.ofCells_cells_absent absent (by decide) n a).symm
    · have insertable : c ∈ (table α).insertable := List.mem_filter.2 ⟨member, by simp [*]⟩
      rw [cell_asStored, Store.ofCells_cells insertable]

theorem Reads.updated {old : α} (reads : Reads old row) (same : Account.id old = Account.id a)
    (now : Instant) : Reads (replacing old (asStored a)) (row.updated now a) := by
  intro c member
  unfold Row.updated
  rw [cell_replacing, cell_asStored]
  by_cases updatable : c ∈ (table α).updatable
  · rw [Store.assign_cells updatable, if_neg]
    revert c
    cases table α <;> decide
  · rw [Store.assign_of_notMem updatable]
    split
    · exact reads c member
    -- the one column left is the identifier, which the two accounts share
    · have id : c = .id := by
        simp_all [Table.updatable]
      subst c
      rw [Lawful.cell_id, reads.id, same]
      rfl

end Account
end
end AccountStore

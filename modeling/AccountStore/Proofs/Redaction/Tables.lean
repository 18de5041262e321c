import AccountStore.Proofs.Table.Change
import AccountStore.Memory.Accounts

/-!
# Redacted tables

Redacting empties the texts of secret columns. A statement that looks at none of them does the same
on redacted tables: it affects and finds the same rows, fails on the same ones, and leaves the
redacted tables.
-/

namespace AccountStore
open Calendar Memory

/-! ## Sorting -/

theorem insertSorted_map {f : α → β} {le : α → α → Bool} {le' : β → β → Bool}
    (same : ∀ a b, le' (f a) (f b) = le a b) (a : α) (l : List α) :
    insertSorted le' (f a) (l.map f) = (insertSorted le a l).map f := by
  induction l with
  | nil => rfl
  | cons b rest ih =>
      simp only [List.map_cons, insertSorted, same]
      split
      · rfl
      · rw [ih, List.map_cons]

theorem sorted_map {f : α → β} {le : α → α → Bool} {le' : β → β → Bool}
    (same : ∀ a b, le' (f a) (f b) = le a b) (l : List α) :
    sorted le' (l.map f) = (sorted le l).map f := by
  induction l with
  | nil => rfl
  | cons a rest ih => rw [List.map_cons, sorted, sorted, ih, insertSorted_map same]

/-! ## Secrets -/

inductive Secrets where
  | passwords
  /-- Passwords and refresh tokens. -/
  | credentials
deriving DecidableEq

/-- The value without its text. NULL stays, and so does the type. -/
def Value.redacted : Value → Value
  | .text (some _) => .text (some "")
  | v => v

namespace Secrets

def hides : Secrets → Column → Bool
  | _, .password => true
  | credentials, .refreshToken => true
  | _, _ => false

def hidesName : Secrets → String → Bool
  | passwords, name => name == "password"
  | credentials, name => name == "password" || name == "refresh_token"

def value (k : Secrets) (c : Column) (v : Value) : Value :=
  if k.hides c then v.redacted else v

def cell (k : Secrets) (cell : Column × Value) : Column × Value :=
  (cell.1, k.value cell.1 cell.2)

def assignment (k : Secrets) : Column × Assigned → Column × Assigned
  | (c, .value v) => (c, .value (k.value c v))
  | (c, .currentTime) => (c, .currentTime)

def row (k : Secrets) (row : Row) : Row := fun c => k.value c (row c)

def resultRow (k : Secrets) (row : ResultRow) : ResultRow :=
  row.map fun cell => (cell.1, if k.hidesName cell.1 then cell.2.redacted else cell.2)

variable {k : Secrets} {c : Column}

theorem hides_of_ne (password : c ≠ .password) (token : c ≠ .refreshToken) :
    k.hides c = false := by
  cases k <;> cases c <;> first | rfl | exact absurd rfl password | exact absurd rfl token

theorem value_of_open (seen : k.hides c = false) (v : Value) : k.value c v = v := by
  simp [value, seen]

theorem value_stored (c : Column) (v : Value) : k.value c v.stored = (k.value c v).stored := by
  unfold value
  split
  · cases v with
    | text s => cases s <;> rfl
    | float x => rfl
    | bigint | bigunsigned | int | bool | double | timestamp => rfl
  · rfl

theorem value_time (c : Column) (now : Instant) :
    k.value c (.timestamp (some now)) = .timestamp (some now) := by
  unfold value
  split <;> rfl

theorem value_absent (c : Column) : k.value c (Row.absent c) = Row.absent c := by
  unfold value
  split
  · cases c <;> rfl
  · rfl

theorem hidesName_name (t : Table) (c : Column) : k.hidesName (c.name t) = k.hides c := by
  cases k <;> cases t <;> cases c <;> decide

/-! ## Rows -/

section Rows

variable (k) (r : Row)

@[simp] theorem row_of_ne (password : c ≠ .password) (token : c ≠ .refreshToken) :
    k.row r c = r c :=
  value_of_open (hides_of_ne password token) (r c)

@[simp] theorem isLive_row : (k.row r).isLive = r.isLive := by
  simp [Row.isLive]

@[simp] theorem ordinal_row : (k.row r).ordinal = r.ordinal := by
  simp [Row.ordinal]

@[simp] theorem matchesContact_row (predicate : ContactPredicate) :
    (k.row r).matchesContact predicate = r.matchesContact predicate := by
  cases predicate <;> simp [Row.matchesContact]

theorem project_row (t : Table) (columns : List Column) :
    (k.row r).project t columns = k.resultRow (r.project t columns) := by
  simp [Row.project, resultRow, hidesName_name, row, value]

end Rows

theorem row_ofCells (n : Nat) (cells : List (Column × Value)) :
    k.row (Row.ofCells n cells) = Row.ofCells n (cells.map k.cell) := by
  funext c
  by_cases ordinal : c = .ordinal
  · subst ordinal
    rw [row_of_ne k _ (by decide) (by decide)]
    rfl
  · have same : (fun cell : Column × Value => decide (cell.1 = c)) ∘ k.cell =
        fun cell => decide (cell.1 = c) := rfl
    simp only [row, Row.ofCells, if_neg ordinal, List.find?_map, same]
    cases found : cells.find? fun cell => cell.1 = c with
    | none => exact value_absent c
    | some cell =>
        obtain rfl : cell.1 = c := by simpa using List.find?_some found
        exact value_stored cell.1 cell.2

-- Redaction keeps the columns of assignments, so both sides find the same one.
theorem row_assign (now : Instant) (assignments : List (Column × Assigned)) (r : Row) :
    k.row (r.assign now assignments) = (k.row r).assign now (assignments.map k.assignment) := by
  have same (c : Column) : (fun a : Column × Assigned => decide (a.1 = c)) ∘ k.assignment =
      fun a => decide (a.1 = c) := by
    funext a
    obtain ⟨d, v | _⟩ := a <;> rfl
  funext c
  simp only [row, Row.assign, List.find?_map, same]
  cases found : assignments.find? fun a => a.1 = c with
  | none => rfl
  | some a =>
      obtain rfl : a.1 = c := by simpa using List.find?_some found
      obtain ⟨d, v | _⟩ := a
      · exact value_stored d v
      · exact value_time d now

/-! ## Statements -/

/-- Conditions that look at no secret column. -/
def Avoids (k : Secrets) (conditions : List Condition) : Prop :=
  ∀ c v, .equals c v ∈ conditions → k.hides c = false

/-- A statement that looks at no secret column; it may write them. -/
def AvoidsIn (k : Secrets) (s : Statement) : Prop :=
  match s.meaning with
  | .select _ conditions _ _ => k.Avoids conditions
  | .count conditions => k.Avoids conditions
  | .found conditions => k.Avoids conditions
  | .insert _ => True
  | .update _ conditions => k.Avoids conditions

/-- The refresh token as it shows. -/
def token : Secrets → String → String
  | passwords, s => s
  | credentials, _ => ""

def statement (k : Secrets) : Statement → Statement
  | .insert t cells returning => .insert t (cells.map k.cell) returning
  | .update t assignments clauses => .update t (assignments.map k.assignment) clauses
  | .setPassword t predicate _ => .setPassword t predicate ""
  | .setRefreshToken t id token => .setRefreshToken t id (k.token token)
  | s => s

def meaning (k : Secrets) : Meaning → Meaning
  | .insert cells => .insert (cells.map k.cell)
  | .update assignments conditions => .update (assignments.map k.assignment) conditions
  | m => m

theorem table_statement (k : Secrets) (s : Statement) : (k.statement s).table = s.table := by
  cases s <;> rfl

theorem meaning_statement (k : Secrets) (s : Statement) :
    (k.statement s).meaning = k.meaning s.meaning := by
  cases s with
  | setPassword | setRefreshToken => cases k <;> rfl
  | select | insert | update | count | found => rfl

theorem satisfiesAll_row {conditions : List Condition} (avoids : k.Avoids conditions) (r : Row) :
    (k.row r).satisfiesAll conditions = r.satisfiesAll conditions := by
  have same : ∀ condition ∈ conditions, (k.row r).satisfies condition = r.satisfies condition := by
    intro condition member
    cases condition with
    | live => exact isLive_row k r
    | equals c v => exact congrArg (Value.same · v) (value_of_open (avoids c v member) (r c))
    | contact predicate => exact matchesContact_row k r predicate
  unfold Row.satisfiesAll
  rw [Bool.eq_iff_iff, List.all_eq_true, List.all_eq_true]
  exact forall₂_congr fun condition member => by rw [same condition member]

/-! ## Tables -/

def table (k : Secrets) (state : TableState) : TableState :=
  { state with rows := state.rows.map k.row }

/-- No unique index is on a secret column. -/
def AvoidsAt (k : Secrets) (state : TableState) : Prop :=
  ∀ c ∈ state.liveUnique, k.hides c = false

theorem distinctLive_map {columns : List Column} (seen : ∀ c ∈ columns, k.hides c = false)
    (rows : List Row) :
    TableState.DistinctLive columns (rows.map k.row) ↔ TableState.DistinctLive columns rows := by
  unfold TableState.DistinctLive
  rw [List.filter_map, List.pairwise_map, show Row.isLive ∘ k.row = Row.isLive from
    funext (isLive_row k)]
  refine ⟨fun h => h.imp fun ab c member => ?_, fun h => h.imp fun ab c member => ?_⟩
  · have distinct := ab c member
    simp only [row, value_of_open (seen c member)] at distinct
    exact distinct
  · simp only [row, value_of_open (seen c member)]
    exact ab c member

theorem admits_map {columns : List Column} (seen : ∀ c ∈ columns, k.hides c = false)
    (rows : List Row) :
    TableState.Admits columns (rows.map k.row) ↔ TableState.Admits columns rows := by
  refine and_congr ?_ (distinctLive_map seen rows)
  unfold TableState.DistinctIds
  rw [List.pairwise_map]
  simp

section Tables

variable {state : TableState}

theorem replace_table (seen : k.AvoidsAt state) (rows : List Row) (next : Nat) :
    (k.table state).replace (rows.map k.row) next = (state.replace rows next).map k.table := by
  unfold TableState.replace
  simp only [table, admits_map seen]
  split <;> rfl

theorem insert_table (seen : k.AvoidsAt state) (cells : List (Column × Value)) :
    (k.table state).insert (cells.map k.cell) = (state.insert cells).map k.table := by
  unfold TableState.insert
  rw [← replace_table seen, List.map_append, List.map_singleton, row_ofCells]
  rfl

theorem update_table (seen : k.AvoidsAt state) (now : Instant)
    (assignments : List (Column × Assigned)) {conditions : List Condition}
    (avoids : k.Avoids conditions) :
    (k.table state).update now (assignments.map k.assignment) conditions =
      (state.update now assignments conditions).map k.table := by
  unfold TableState.update
  rw [← replace_table seen]
  simp only [table, List.map_map]
  congr 1
  refine List.map_congr_left fun r _ => ?_
  simp only [Function.comp_apply, satisfiesAll_row avoids]
  split
  · exact (row_assign now assignments r).symm
  · rfl

theorem select_table {conditions : List Condition} (avoids : k.Avoids conditions) (ordered : Bool)
    (window : Option Window) :
    (k.table state).select conditions ordered window =
      (state.select conditions ordered window).map k.row := by
  have found : (state.rows.map k.row).filter (Row.satisfiesAll conditions) =
      (state.rows.filter (Row.satisfiesAll conditions)).map k.row := by
    rw [List.filter_map, show Row.satisfiesAll conditions ∘ k.row = Row.satisfiesAll conditions from
      funext (satisfiesAll_row avoids)]
  have arranged (rows : List Row) :
      sorted (fun a b : Row => a.ordinal ≤ b.ordinal) (rows.map k.row) =
        (sorted (fun a b : Row => a.ordinal ≤ b.ordinal) rows).map k.row :=
    sorted_map (fun a b => by simp) rows
  simp only [TableState.select, table, found, arranged]
  cases ordered <;> cases window <;> simp

theorem countP_table {conditions : List Condition} (avoids : k.Avoids conditions)
    (state : TableState) :
    (k.table state).rows.countP (Row.satisfiesAll conditions) =
      state.rows.countP (Row.satisfiesAll conditions) := by
  simp only [table, List.countP_map]
  rw [show Row.satisfiesAll conditions ∘ k.row = Row.satisfiesAll conditions from
    funext (satisfiesAll_row avoids)]

theorem any_table {conditions : List Condition} (avoids : k.Avoids conditions)
    (state : TableState) :
    (k.table state).rows.any (Row.satisfiesAll conditions) =
      state.rows.any (Row.satisfiesAll conditions) := by
  simp only [table, List.any_map]
  rw [show Row.satisfiesAll conditions ∘ k.row = Row.satisfiesAll conditions from
    funext (satisfiesAll_row avoids)]

/-- A statement affects the same on a redacted table. -/
theorem execute_table (seen : k.AvoidsAt state) (now : Instant) {s : Statement}
    (avoids : k.AvoidsIn s) :
    (k.table state).execute now (k.statement s) =
      ((state.execute now s).1, k.table (state.execute now s).2) := by
  simp only [TableState.execute, meaning_statement]
  unfold AvoidsIn at avoids
  cases means : s.meaning with
  | select | count | found => rfl
  | insert cells =>
      simp only [meaning, insert_table seen]
      cases state.insert cells <;> rfl
  | update assignments conditions =>
      simp only [means] at avoids
      simp only [meaning, update_table seen now assignments avoids, countP_table avoids state]
      cases state.update now assignments conditions <;> rfl

/-- A statement returns the redacted rows from a redacted table. -/
theorem query_table (seen : k.AvoidsAt state) {s : Statement} (avoids : k.AvoidsIn s) :
    (k.table state).query (k.statement s) =
      ((state.query s).1.map (List.map k.resultRow), k.table (state.query s).2) := by
  simp only [TableState.query, meaning_statement, table_statement]
  unfold AvoidsIn at avoids
  cases means : s.meaning with
  | select columns conditions ordered window =>
      simp only [means] at avoids
      simp only [meaning, select_table avoids, List.map_map, Except.map]
      congr 2
      refine List.map_congr_left fun r _ => ?_
      exact project_row k r s.table columns
  | count conditions =>
      simp only [means] at avoids
      simp only [meaning, countP_table avoids state]
      cases k <;> rfl
  | found conditions =>
      simp only [means] at avoids
      simp only [meaning, any_table avoids state]
      cases k <;> rfl
  | insert cells =>
      simp only [meaning, insert_table seen]
      cases state.insert cells with
      | error e => rfl
      | ok after =>
          simp only [Except.map, List.map_cons, List.map_nil, ← project_row, row_ofCells]
          rfl
  | update => rfl

end Tables
end Secrets
end AccountStore

import AccountStore.Error
import AccountStore.Sort
import AccountStore.Statement.Basic

/-!
A table in memory.

Rows are only ever appended. Ordinals count up from one, and a failed statement changes nothing and
uses none. Identifiers are unique over all rows, deleted ones included; the columns of a unique
index are unique among live rows.
-/

namespace AccountStore.Memory

abbrev Row := Column → Value

namespace Row

def isLive (row : Row) : Bool :=
  (row .deletedAt).isNull

def ordinal (row : Row) : Int :=
  match row .ordinal with
  | .bigint (some n) => n
  | _ => 0

/-- The NULL of a column that a new row leaves out. -/
def absent : Column → Value
  | .updatedAt => .timestamp none
  | .deletedAt => .timestamp none
  | .createdAt => .timestamp none
  | _ => .text none

/-- A new row with an ordinal and the given cells. -/
def ofCells (ordinal : Nat) (cells : List (Column × Value)) : Row := fun c =>
  if c = .ordinal then .bigint (some ordinal)
  else ((cells.find? fun cell => cell.1 = c).map (·.2.stored)).getD (absent c)

def project (table : Table) (columns : List Column) (row : Row) : ResultRow :=
  columns.map fun c => (c.name table, row c)

def matchesContact (row : Row) : ContactPredicate → Bool
  | .phone p => (row .phoneNumber).same (.text (some p))
  | .both p e => (row .phoneNumber).same (.text (some p)) && (row .email).same (.text (some e))
  | .either p e => (row .phoneNumber).same (.text (some p)) || (row .email).same (.text (some e))

def satisfies (row : Row) : Condition → Bool
  | .live => row.isLive
  | .equals column value => (row column).same value
  | .contact predicate => row.matchesContact predicate

def satisfiesAll (conditions : List Condition) (row : Row) : Bool :=
  conditions.all row.satisfies

/-- Assigns columns, at a time of the database. -/
def assign (now : Calendar.Instant) (assignments : List (Column × Assigned)) (row : Row) : Row :=
  fun c => match assignments.find? fun a => a.1 = c with
    | some (_, .value v) => v.stored
    | some (_, .currentTime) => .timestamp (some now)
    | none => row c

end Row

structure TableState where
  rows : List Row
  /-- The ordinal of the next row. -/
  next : Nat
  /-- The columns with a unique index over live rows. -/
  liveUnique : List Column

namespace TableState

def empty (liveUnique : List Column) : TableState := ⟨[], 1, liveUnique⟩

/-- No two rows share an identifier. -/
def DistinctIds (rows : List Row) : Prop :=
  rows.Pairwise fun a b => (a .id).same (b .id) = false

/-- No two live rows share a value in one of the columns. -/
def DistinctLive (columns : List Column) (rows : List Row) : Prop :=
  (rows.filter Row.isLive).Pairwise fun a b => ∀ c ∈ columns, (a c).same (b c) = false

/-- The constraints of a table with unique indexes on some columns. -/
def Admits (liveUnique : List Column) (rows : List Row) : Prop :=
  DistinctIds rows ∧ DistinctLive liveUnique rows

instance (rows : List Row) : Decidable (DistinctIds rows) :=
  inferInstanceAs (Decidable (List.Pairwise _ _))

instance (columns : List Column) (rows : List Row) : Decidable (DistinctLive columns rows) :=
  inferInstanceAs (Decidable (List.Pairwise _ _))

instance (liveUnique : List Column) (rows : List Row) : Decidable (Admits liveUnique rows) :=
  inferInstanceAs (Decidable (_ ∧ _))

def duplicate : DriverError :=
  .violated (.unique "duplicate value")

/-- Takes new rows if the table's constraints admit them. -/
def replace (state : TableState) (rows : List Row) (next : Nat) : Except DriverError TableState :=
  if Admits state.liveUnique rows then .ok { state with rows, next } else .error duplicate

def insert (state : TableState) (cells : List (Column × Value)) : Except DriverError TableState :=
  state.replace (state.rows ++ [Row.ofCells state.next cells]) (state.next + 1)

def update (state : TableState) (now : Calendar.Instant) (assignments : List (Column × Assigned))
    (conditions : List Condition) : Except DriverError TableState :=
  state.replace
    (state.rows.map fun row =>
      if row.satisfiesAll conditions then row.assign now assignments else row)
    state.next

/-- The rows that satisfy the conditions, by ordinal. -/
def select (state : TableState) (conditions : List Condition) (ordered : Bool)
    (window : Option Window) : List Row :=
  let found := state.rows.filter (Row.satisfiesAll conditions)
  let found := if ordered then sorted (fun a b => a.ordinal ≤ b.ordinal) found else found
  match window with
  | none => found
  | some w => (found.drop w.offset.toNat).take w.limit.toNat

def execute (now : Calendar.Instant) (s : Statement) (state : TableState) :
    Except DriverError Nat × TableState :=
  match s.meaning with
  | .insert cells =>
      match state.insert cells with
      | .ok after => (.ok 1, after)
      | .error e => (.error e, state)
  | .update assignments conditions =>
      match state.update now assignments conditions with
      | .ok after => (.ok (state.rows.countP (Row.satisfiesAll conditions)), after)
      | .error e => (.error e, state)
  | _ => (.ok 0, state)

def query (s : Statement) (state : TableState) : Except DriverError (List ResultRow) × TableState :=
  match s.meaning with
  | .select columns conditions ordered window =>
      (.ok ((state.select conditions ordered window).map (Row.project s.table columns)), state)
  | .count conditions =>
      (.ok [[("count", .bigint (some (state.rows.countP (Row.satisfiesAll conditions))))]], state)
  | .found conditions =>
      (.ok [[("found", .bool (some (state.rows.any (Row.satisfiesAll conditions))))]], state)
  | .insert cells =>
      match state.insert cells with
      | .ok after =>
          (.ok [Row.project s.table s.table.projection (Row.ofCells state.next cells)], after)
      | .error e => (.error e, state)
  | .update .. => (.ok [], state)

end TableState
end AccountStore.Memory

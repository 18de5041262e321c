import AccountStore.Account.Column
import AccountStore.Calendar.Instant
import AccountStore.Number.Real

/-!
The values that statements carry and rows hold, and how columns of a row are read.

Every value has a type, also when it is NULL. Entities know no NULL: an empty text and the epoch
stand for it in nullable columns, in both directions.
-/

namespace AccountStore
open Number Calendar

inductive Value where
  | text (v : Option String)
  | bigint (v : Option Int)
  | bigunsigned (v : Option UInt64)
  | int (v : Option Int)
  | bool (v : Option Bool)
  | float (v : Option Real32)
  | double (v : Option Real64)
  | timestamp (v : Option Instant)
deriving DecidableEq

namespace Value

def isNull : Value → Bool
  | text v => v.isNone
  | bigint v => v.isNone
  | bigunsigned v => v.isNone
  | int v => v.isNone
  | bool v => v.isNone
  | float v => v.isNone
  | double v => v.isNone
  | timestamp v => v.isNone

/-- The equality of a condition: never true of NULL. -/
def same (a b : Value) : Bool :=
  !a.isNull && a == b

/-- Text in a nullable column: the empty text is stored as NULL. -/
def ofNullableText (s : String) : Value :=
  .text (if s = "" then none else some s)

/-- The value as a row keeps it: a zero has no sign. -/
def stored : Value → Value
  | float v => float (v.map Number.Real32.dropZeroSign)
  | v => v

/-- Time in a nullable column: the epoch is stored as NULL. -/
def ofNullableTime (t : Instant) : Value :=
  .timestamp (if t = .epoch then none else some t)

end Value

/-- A row of an answer: values under the names of their columns. -/
abbrev ResultRow := List (String × Value)

namespace ResultRow

def value? (row : ResultRow) (name : String) : Option Value :=
  (row.find? fun cell => cell.1 == name).map (·.2)

def text? (row : ResultRow) (name : String) : Option String :=
  match row.value? name with
  | some (.text v) => v
  | _ => none

def bigint? (row : ResultRow) (name : String) : Option Int :=
  match row.value? name with
  | some (.bigint v) => v
  | _ => none

def bool? (row : ResultRow) (name : String) : Option Bool :=
  match row.value? name with
  | some (.bool v) => v
  | _ => none

def float? (row : ResultRow) (name : String) : Option Real32 :=
  match row.value? name with
  | some (.float v) => v
  | _ => none

def time? (row : ResultRow) (name : String) : Option Instant :=
  match row.value? name with
  | some (.timestamp v) => v
  | _ => none

end ResultRow

/-- A nullable column as an entity carries it: the zero value stands for NULL and for absence. -/
def orZero [Inhabited α] (v : Option α) : α :=
  v.getD default

example : orZero (none : Option String) = "" ∧ orZero (none : Option Instant) = .epoch := by decide

end AccountStore

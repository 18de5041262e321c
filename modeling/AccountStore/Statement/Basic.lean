import AccountStore.Account.Value

/-!
The statements that account operations send.

Statements on whole accounts are put together from columns, clauses and values; those that look at
single details, or rotate a credential, have one form each. What any of them asks of its table is its
`Meaning`. A window limits the rows of a read; a count or an existence check answers one row with
one value.
-/

namespace AccountStore

/-- How accounts are located by their contact details. -/
inductive ContactPredicate where
  | phone (phoneNumber : String)
  /-- The phone number and the e-mail address on the same row. -/
  | both (phoneNumber email : String)
  /-- The phone number or the e-mail address. -/
  | either (phoneNumber email : String)
deriving DecidableEq, Repr

/-- One of the conditions on the rows of a statement; all of them must hold. -/
inductive Condition where
  | live
  | equals (column : Column) (value : Value)
  | contact (predicate : ContactPredicate)
deriving DecidableEq

/-- A condition of a statement that is put together from parts. -/
inductive Clause where
  | live
  | equals (column : Column) (value : Value)
deriving DecidableEq

def Clause.condition : Clause → Condition
  | live => .live
  | equals column value => .equals column value

/-- What a column is set to. -/
inductive Assigned where
  | value (v : Value)
  /-- The time at the database. -/
  | currentTime
deriving DecidableEq

/-- How many rows a read returns at most, after how many others. -/
structure Window where
  limit : UInt64
  offset : UInt64
deriving DecidableEq, Repr

inductive Statement where
  /-- The given columns of the rows that satisfy the clauses. -/
  | select (table : Table) (columns : List Column) (clauses : List Clause) (ordered : Bool)
      (window : Option Window)
  /-- A new row, whose projection is returned on demand. -/
  | insert (table : Table) (cells : List (Column × Value)) (returning : Bool)
  /-- New values for the rows that satisfy the clauses. -/
  | update (table : Table) (assignments : List (Column × Assigned)) (clauses : List Clause)
  /-- The number of live rows that hold a text in a column, as `count`. -/
  | count (table : Table) (column : Column) (value : String)
  /-- Whether a live row matches, as `found`. -/
  | found (table : Table) (predicate : ContactPredicate)
  /-- A new password for the live rows that match. -/
  | setPassword (table : Table) (predicate : ContactPredicate) (password : String)
  /-- A new refresh token for a live row. -/
  | setRefreshToken (table : Table) (id token : String)
deriving DecidableEq

/-- What a statement asks of its table, however it is written. -/
inductive Meaning where
  | select (columns : List Column) (conditions : List Condition) (ordered : Bool)
      (window : Option Window)
  | count (conditions : List Condition)
  | found (conditions : List Condition)
  | insert (cells : List (Column × Value))
  | update (assignments : List (Column × Assigned)) (conditions : List Condition)

namespace Statement

def table : Statement → Table
  | select t .. => t
  | insert t .. => t
  | update t .. => t
  | count t .. => t
  | found t .. => t
  | setPassword t .. => t
  | setRefreshToken t .. => t

/-- The conditions that one live row satisfies. -/
def liveById (id : String) : List Condition :=
  [.equals .id (.text (some id)), .live]

def meaning : Statement → Meaning
  | select _ columns clauses ordered window =>
      .select columns (clauses.map (·.condition)) ordered window
  | insert _ cells _ => .insert cells
  | update _ assignments clauses => .update assignments (clauses.map (·.condition))
  | count _ column value => .count [.equals column (.text (some value)), .live]
  | found _ predicate => .found [.contact predicate, .live]
  | setPassword _ predicate password =>
      .update [(.password, .value (.text (some password)))] [.contact predicate, .live]
  | setRefreshToken _ id token =>
      .update [(.refreshToken, .value (.text (some token)))] (liveById id)

/-- The statement may change rows. -/
def isMutating (s : Statement) : Bool :=
  match s.meaning with
  | .insert _ => true
  | .update .. => true
  | _ => false

end Statement
end AccountStore

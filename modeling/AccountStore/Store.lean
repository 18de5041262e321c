import AccountStore.Account.Class
import AccountStore.Program.Basic
import AccountStore.Statement.Build

/-!
Operations on one account table.

Every operation sees live rows only. A row with a deletion marker cannot be read, updated, deleted
again or found; an update or deletion that affects no row looks the marker up to say why.
-/

namespace AccountStore

/-- The deletion marker of a row as it is looked up: NULL, absent and of another type are the
same. -/
def ResultRow.isDeleted (row : ResultRow) : Bool :=
  (row.time? (Column.deletedAt.name .users)).isSome

namespace Store

variable {α : Type} [Account α]

/-- The values of an account for some columns. -/
def cells (columns : List Column) (account : α) : List (Column × Value) :=
  columns.map fun c => (c, Account.cell account c)

def insertion (account : α) (returning : Bool) : Program Statement :=
  .ofExcept .malformed
    (Statement.inserting (Account.table α) (cells (Account.table α).insertable account) returning)

def ofRow (row : ResultRow) : Program α :=
  .ofOption (.database .undecodable) (Account.ofRow? row)

/-- Inserts an account and returns its identifier. -/
def create (account : α) : Program String := do
  let _ ← Program.send (← insertion account false)
  return Account.id account

/-- Inserts an account and returns it as it was stored. -/
def createAndFetch (account : α) : Program α := do
  let rows ← Program.rows (← insertion account true)
  let row ← Program.ofOption (.internal "insert returned no row") rows.head?
  ofRow row

def get (id : String) : Program α := do
  let rows ← Program.rows (.byId (Account.table α) id)
  let row ← Program.ofOption .notFound rows.head?
  ofRow row

def list (page : Pagination) (filters : List Filter) : Program (List α) := do
  let rows ← Program.rows (.list (Account.table α) filters page)
  .ofOption (.database .undecodable) (rows.mapM Account.ofRow?)

/-- What the look-up of a deletion marker says of a row that was not live. -/
def missing (rows : List ResultRow) : AccountError :=
  match rows.head? with
  | none => .notFound
  | some row =>
      if row.isDeleted then .alreadyDeleted else .internal "row changed while being modified"

/-- Why a statement on a live row affected none. If the look-up fails, that is the reason. -/
def explainMissing (table : Table) (id : String) : Program AccountError :=
  .query (.deletionMarker table id) fun
    | .ok rows => .pure (missing rows)
    | .error e => .pure (.ofDriver e)

/-- Sends a statement that must affect a live row. -/
def modify (table : Table) (id : String) (statement : Statement) : Program Unit := do
  if (← Program.send statement) = 0 then .fail (← explainMissing table id) else return ()

/-- Replaces the updatable columns of a live account. -/
def update (account : α) : Program Unit := do
  let table := Account.table α
  let statement ← Program.ofExcept .malformed
    (Statement.updating table (Account.id account) (cells table.updatable account))
  modify table (Account.id account) statement

/-- Marks a live account as deleted. -/
def delete (table : Table) (id : String) : Program Unit :=
  modify table id (.softDelete table id)

/-- Whether a live account holds a value in a field. -/
def checkField (table : Table) (field : Field table) (value : String) : Program Bool := do
  match (← Program.rows (.count table field.column value)).head? with
  | none => return false
  | some row => return 0 < (← Program.ofOption (.database .undecodable) (row.bigint? "count"))

/-- Whether a live account matches. -/
def ifExists (table : Table) (predicate : ContactPredicate) : Program Bool := do
  match (← Program.rows (.found table predicate)).head? with
  | none => return false
  | some row => .ofOption (.database .undecodable) (row.bool? "found")

/-- Replaces the password of the live accounts that match; false if there are none. -/
def changePassword (table : Table) (predicate : ContactPredicate) (password : String) :
    Program Bool := do
  return 0 < (← Program.send (.setPassword table predicate password))

/-- Replaces the refresh token of a live account; false if there is none. -/
def updateRefreshToken (table : Table) (id token : String) : Program Bool := do
  return 0 < (← Program.send (.setRefreshToken table id token))

end Store

/-- What an operation answers. -/
inductive Answer (α : Type) where
  | done
  | id (id : String)
  | account (account : α)
  | accounts (list : List α)
  | truth (b : Bool)
deriving DecidableEq

/-- A call of an operation on one account table. -/
inductive StoreCall (α : Type) [Account α] where
  | create (account : α)
  | createAndFetch (account : α)
  | get (id : String)
  | list (page : Pagination) (filters : List Filter)
  | update (account : α)
  | delete (id : String)
  | checkField (field : Field (Account.table α)) (value : String)
  | ifExists (lookup : Account.Lookup α)
  | changePassword (contact : Account.Contact α) (password : String)
  | updateRefreshToken (id token : String)

def StoreCall.program {α : Type} [Account α] : StoreCall α → Program (Answer α)
  | create account => .id <$> Store.create account
  | createAndFetch account => .account <$> Store.createAndFetch account
  | get id => .account <$> Store.get id
  | list page filters => .accounts <$> Store.list page filters
  | update account => (fun _ => .done) <$> Store.update account
  | delete id => (fun _ => .done) <$> Store.delete (Account.table α) id
  | checkField field value => .truth <$> Store.checkField _ field value
  | ifExists lookup => .truth <$> Store.ifExists (Account.table α) (Account.predicate lookup)
  | changePassword contact password =>
      .truth <$> Store.changePassword (Account.table α) (Account.predicate (Account.reset contact))
        password
  | updateRefreshToken id token =>
      .truth <$> Store.updateRefreshToken (Account.table α) id token

end AccountStore

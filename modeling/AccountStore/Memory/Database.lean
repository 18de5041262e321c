import AccountStore.Memory.Accounts
import AccountStore.Migration

/-!
A database in memory: the account tables, their indexes and the record of migrations.

Databases differ in two ways that show here. Not all of them let a column count up that is not the
key, so that some cannot create the account tables at all. And an attempt to change the schema is one
transaction on some, of which nothing is left if it fails; on others what was done before stays.
-/

namespace AccountStore.Memory

/-- What a kind of database can do. -/
structure Backend where
  /-- A column may count up without being the key. -/
  countsBesideKey : Bool
  /-- An attempt to change the schema is taken back as a whole if it fails. -/
  transactional : Bool
deriving DecidableEq, Repr

namespace Backend

def postgres : Backend := ⟨true, true⟩

def sqlite : Backend := ⟨false, false⟩

end Backend

structure Database where
  backend : Backend
  accounts : Accounts
  /-- The tables that are not there. -/
  dropped : List Table
  /-- The tables with an index on their deletion marker. -/
  markerIndexed : List Table
  /-- The names of the migrations recorded as applied. -/
  applied : List String

namespace Database

/-- A database with empty tables and some recorded migrations; it has the unique indexes if their
migration is among them. -/
def initial (backend : Backend) (markerIndexed : List Table) (applied : List String) :
    Database where
  backend
  accounts :=
    if Migration.addLiveUnique.name ∈ applied then .empty else ⟨.empty [], .empty []⟩
  dropped := []
  markerIndexed
  applied

/-- A database without tables and without a record. -/
def blank (backend : Backend) : Database where
  backend
  accounts := ⟨.empty [], .empty []⟩
  dropped := [.users, .admins]
  markerIndexed := []
  applied := []

def noTable : DriverError := .failure .execution "no such table"

def notSupported : DriverError := .failure .execution "a counter must be the key"

def indexExists : DriverError := .failure .execution "the index is there already"

/-- Changes the unique indexes of a table. -/
def setLiveUnique (db : Database) (t : Table) (columns : List Column) : Database :=
  { db with accounts := db.accounts.set t { db.accounts.get t with liveUnique := columns } }

/-- Carries one definition out. -/
def define (db : Database) : Definition → Except DriverError Database
  | .createTable t =>
      if !db.backend.countsBesideKey then .error notSupported
      else if t ∈ db.dropped then
        .ok { db with
          accounts := db.accounts.set t (.empty [])
          dropped := db.dropped.filter (· ≠ t) }
      else .ok db
  | .createDeletedIndex t =>
      if t ∈ db.dropped then .error noTable
      else if t ∈ db.markerIndexed then .error indexExists
      else .ok { db with markerIndexed := t :: db.markerIndexed }
  | .dropTable t =>
      if t ∈ db.dropped then .error noTable
      else .ok { db with
        accounts := db.accounts.set t (.empty [])
        dropped := t :: db.dropped
        markerIndexed := db.markerIndexed.filter (· ≠ t) }
  | .createLiveUnique t c =>
      let table := db.accounts.get t
      if t ∈ db.dropped then .error noTable
      else if c ∈ table.liveUnique then .ok db
      else if TableState.DistinctLive [c] table.rows then
        .ok (db.setLiveUnique t (table.liveUnique ++ [c]))
      else .error TableState.duplicate
  | .dropLiveUnique t c =>
      .ok (db.setLiveUnique t ((db.accounts.get t).liveUnique.filter (· ≠ c)))

/-- Carries definitions out until one fails. -/
def defineAll : List Definition → Database → Except DriverError Unit × Database
  | [], db => (.ok (), db)
  | d :: rest, db =>
      match db.define d with
      | .ok db => defineAll rest db
      | .error e => (.error e, db)

/-- A recorded migration that is not known makes every look at the record fail. -/
def unknownRecorded (db : Database) : Bool :=
  db.applied.any fun name => Migration.all.all fun m => m.name != name

def unknownMigration : DriverError := .failure .custom "a recorded migration is missing"

def isApplied (db : Database) (m : Migration) : Bool :=
  db.applied.contains m.name

/-- Every known migration, and whether it is applied. -/
def status (db : Database) : Except DriverError (List (String × Bool)) :=
  if db.unknownRecorded then .error unknownMigration
  else .ok (Migration.all.map fun m => (m.name, db.isApplied m))

/-- Applies migrations one by one, recording each; the first that fails is not recorded. -/
def applyAll : List Migration → Database → Except DriverError Unit × Database
  | [], db => (.ok (), db)
  | m :: rest, db =>
      match defineAll m.up db with
      | (.ok (), db) => applyAll rest { db with applied := db.applied ++ [m.name] }
      | (.error e, db) => (.error e, db)

/-- Undoes a migration and takes it from the record. -/
def undo (m : Migration) (db : Database) : Except DriverError Unit × Database :=
  match defineAll m.down db with
  | (.ok (), db) => (.ok (), { db with applied := db.applied.filter (· ≠ m.name) })
  | (.error e, db) => (.error e, db)

/-- What is left of an attempt to change the schema of a database. -/
def settle (db : Database) : Except DriverError Unit × Database → Except DriverError Unit × Database
  | (.ok (), after) => (.ok (), after)
  | (.error e, after) => (.error e, if db.backend.transactional then db else after)

/-- Applies the migrations that are not recorded. -/
def up (db : Database) : Except DriverError Unit × Database :=
  if db.unknownRecorded then (.error unknownMigration, db)
  else db.settle (applyAll (Migration.all.filter fun m => !db.isApplied m) db)

/-- Undoes the last applied migration, if there is one. -/
def down (db : Database) : Except DriverError Unit × Database :=
  if db.unknownRecorded then (.error unknownMigration, db)
  else match (Migration.all.filter db.isApplied).getLast? with
    | none => (.ok (), db)
    | some m => db.settle (undo m db)

/-- Drops all tables and the record, then applies every migration. -/
def fresh (db : Database) : Except DriverError Unit × Database :=
  db.settle (up (blank db.backend))

/-- Answers a statement, which fails if its table is not there. -/
def guarded (answer : Accounts → Except DriverError β × Accounts) (s : Statement) (db : Database) :
    Except DriverError β × Database :=
  if s.table ∈ db.dropped then (.error noTable, db)
  else
    let (result, accounts) := answer db.accounts
    (result, { db with accounts })

def driver (now : Calendar.Instant) : Driver Database where
  execute s := guarded (Accounts.execute now s) s
  query s := guarded (Accounts.query s) s

end Database
end AccountStore.Memory

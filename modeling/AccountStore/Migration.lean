import AccountStore.Error

/-!
The schema of the account tables and the migrations that build it.

A migration is a list of definitions for each direction. They are carried out one by one; the first
that fails ends the migration.
-/

namespace AccountStore

inductive ColumnType where
  /-- Text, with a greatest length if there is one. -/
  | varchar (length : Option Nat)
  | text
  | bigint
  /-- A number that the database counts up. -/
  | bigserial
  | real
  | timestamp
deriving DecidableEq, Repr

inductive ColumnDefault where
  | emptyText
  | zero
  | currentTime
deriving DecidableEq, Repr

structure ColumnDefinition where
  column : Column
  type : ColumnType
  nullable : Bool := false
  default : Option ColumnDefault := none
deriving DecidableEq

namespace Table

def definitions : Table → List ColumnDefinition
  | users =>
      [⟨.id, .varchar (some 64), false, none⟩,
       ⟨.ordinal, .bigserial, false, none⟩,
       ⟨.firstName, .varchar none, false, some .emptyText⟩,
       ⟨.lastName, .varchar none, false, some .emptyText⟩,
       ⟨.birthDate, .varchar (some 32), true, none⟩,
       ⟨.phoneNumber, .varchar (some 20), false, none⟩,
       ⟨.password, .text, false, some .emptyText⟩,
       ⟨.gender, .varchar (some 16), false, some .emptyText⟩,
       ⟨.refreshToken, .text, false, some .emptyText⟩,
       ⟨.createdAt, .timestamp, false, some .currentTime⟩,
       ⟨.updatedAt, .timestamp, true, none⟩,
       ⟨.deletedAt, .timestamp, true, none⟩]
  | admins =>
      [⟨.id, .varchar (some 64), false, none⟩,
       ⟨.ordinal, .bigserial, false, none⟩,
       ⟨.role, .varchar (some 32), false, none⟩,
       ⟨.firstName, .varchar none, false, some .emptyText⟩,
       ⟨.lastName, .varchar none, false, some .emptyText⟩,
       ⟨.birthDate, .varchar (some 32), true, none⟩,
       ⟨.phoneNumber, .varchar (some 20), false, none⟩,
       ⟨.email, .varchar none, false, none⟩,
       ⟨.password, .text, false, some .emptyText⟩,
       ⟨.gender, .varchar (some 16), false, some .emptyText⟩,
       ⟨.salary, .real, false, some .zero⟩,
       ⟨.biography, .text, false, some .emptyText⟩,
       ⟨.startWorkYear, .varchar (some 32), true, none⟩,
       ⟨.endWorkYear, .varchar (some 32), true, none⟩,
       ⟨.workYears, .bigint, false, some .zero⟩,
       ⟨.refreshToken, .text, false, some .emptyText⟩,
       ⟨.createdAt, .timestamp, false, some .currentTime⟩,
       ⟨.updatedAt, .timestamp, true, none⟩,
       ⟨.deletedAt, .timestamp, true, none⟩]

/-- The greatest length of a column's text, where the schema declares one. -/
def maxLength? (t : Table) (c : Column) : Option Nat :=
  (t.definitions.find? fun d => d.column = c).bind fun d => match d.type with
    | .varchar length => length
    | _ => none

end Table

/-- A statement that changes the schema. -/
inductive Definition where
  | createTable (table : Table)
  | createDeletedIndex (table : Table)
  | dropTable (table : Table)
  /-- A unique index on a column over live rows. -/
  | createLiveUnique (table : Table) (column : Column)
  | dropLiveUnique (table : Table) (column : Column)
deriving DecidableEq

namespace ColumnType

def sql : ColumnType → String
  | varchar (some n) => "varchar(" ++ String.ofList (Text.decimal n) ++ ")"
  | varchar none => "varchar"
  | text => "text"
  | bigint => "bigint"
  | bigserial => "bigserial"
  | real => "real"
  | timestamp => "timestamp with time zone"

end ColumnType

def ColumnDefault.sql : ColumnDefault → String
  | emptyText => " DEFAULT \x27\x27"
  | zero => " DEFAULT 0"
  | currentTime => " DEFAULT CURRENT_TIMESTAMP"

def ColumnDefinition.sql (table : Table) (d : ColumnDefinition) : String :=
  "\"" ++ d.column.name table ++ "\" " ++ d.type.sql ++
    (if d.nullable then " NULL" else " NOT NULL") ++
    (if d.column = .id then " PRIMARY KEY" else "") ++
    (match d.default with
      | some default => default.sql
      | none => "")

namespace Definition

def indexName (table : Table) (column : Column) : String :=
  s!"uq_{table.name}_live_{column.name table}"

def sql : Definition → String
  | createTable t =>
      "CREATE TABLE IF NOT EXISTS \"" ++ t.name ++ "\" ( " ++
        ", ".intercalate (t.definitions.map (·.sql t)) ++ " )"
  | createDeletedIndex t =>
      s!"CREATE INDEX \"idx_{t.name}_deleted_at\" ON \"{t.name}\" (\"deleted_at\")"
  | dropTable t => s!"DROP TABLE \"{t.name}\""
  | createLiveUnique t c =>
      s!"CREATE UNIQUE INDEX IF NOT EXISTS {indexName t c} ON {t.name} ({c.name t})" ++
        " WHERE deleted_at IS NULL"
  | dropLiveUnique t c => s!"DROP INDEX IF EXISTS {indexName t c}"

end Definition

inductive Direction where
  | up
  | down
deriving DecidableEq, Repr

structure Migration where
  name : String
  up : List Definition
  down : List Definition
deriving DecidableEq

namespace Migration

def createUsers : Migration where
  name := "m20240101_000001_create_users_table"
  up := [.createTable .users, .createDeletedIndex .users]
  down := [.dropTable .users]

def createAdmins : Migration where
  name := "m20240101_000002_create_admins_table"
  up := [.createTable .admins, .createDeletedIndex .admins]
  down := [.dropTable .admins]

def addLiveUnique : Migration where
  name := "m20240102_000001_add_live_unique_indexes"
  up :=
    [.createLiveUnique .users .phoneNumber, .createLiveUnique .admins .phoneNumber,
     .createLiveUnique .admins .email]
  down :=
    [.dropLiveUnique .admins .email, .dropLiveUnique .admins .phoneNumber,
     .dropLiveUnique .users .phoneNumber]

/-- Every migration, in the order in which they are applied. -/
def all : List Migration := [createUsers, createAdmins, addLiveUnique]

def steps (m : Migration) : Direction → List Definition
  | .up => m.up
  | .down => m.down

end Migration
end AccountStore

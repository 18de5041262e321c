import AccountStore.Error
import AccountStore.Query.Filter
import AccountStore.Query.Pagination

/-!
Building the statements on account tables.

Reads return the projection of live rows in the order of their ordinals. Writes are checked before
they are built: some columns belong to the database, and a write without columns is none.
-/

namespace AccountStore.Statement

/-- The clauses that one live row satisfies. -/
def gate (id : String) : List Clause :=
  [.equals .id (.text (some id)), .live]

/-- The live rows that satisfy every filter, in the order of their ordinals. -/
def list (table : Table) (filters : List Filter) (page : Pagination) : Statement :=
  .select table table.projection (.live :: filters.map (·.clause)) true page.window?

def byId (table : Table) (id : String) : Statement :=
  list table [.byId id] .unlimited

/-- The deletion marker of a row, live or not. -/
def deletionMarker (table : Table) (id : String) : Statement :=
  .select table [.deletedAt] [.equals .id (.text (some id))] false none

/-- The columns that a write may not name. -/
def forbidden : Write → List Column
  | .insert => [.ordinal, .deletedAt]
  | .update => [.id, .ordinal, .createdAt, .deletedAt]

/-- The first reason why a write cannot be built. -/
def malformed? (write : Write) (table : Table) (cells : List (Column × Value)) : Option Malformed :=
  if cells.isEmpty then some (.noColumns write table)
  else (cells.find? fun c => c.1 ∈ forbidden write).map fun c => .forbiddenColumn write table c.1

/-- A new row with the given values, whose projection is returned on demand. -/
def inserting (table : Table) (cells : List (Column × Value)) (returning : Bool) :
    Except Malformed Statement :=
  match malformed? .insert table cells with
  | some cause => .error cause
  | none => .ok (.insert table cells returning)

/-- New values for one live row. -/
def updating (table : Table) (id : String) (cells : List (Column × Value)) :
    Except Malformed Statement :=
  match malformed? .update table cells with
  | some cause => .error cause
  | none => .ok (.update table (cells.map fun c => (c.1, .value c.2)) (gate id))

/-- Sets the deletion marker of one live row. -/
def softDelete (table : Table) (id : String) : Statement :=
  .update table [(.deletedAt, .currentTime)] (gate id)

end AccountStore.Statement

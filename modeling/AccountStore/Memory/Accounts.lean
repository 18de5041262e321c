import AccountStore.Memory.Table
import AccountStore.Service

/-!
Both account tables in memory.
-/

namespace AccountStore.Memory

structure Accounts where
  users : TableState
  admins : TableState

namespace Accounts

/-- Empty tables with all their unique indexes. -/
def empty : Accounts :=
  ⟨.empty Table.users.liveUnique, .empty Table.admins.liveUnique⟩

def get (accounts : Accounts) : Table → TableState
  | .users => accounts.users
  | .admins => accounts.admins

def set (accounts : Accounts) (table : Table) (state : TableState) : Accounts :=
  match table with
  | .users => { accounts with users := state }
  | .admins => { accounts with admins := state }

def execute (now : Calendar.Instant) (s : Statement) (accounts : Accounts) :
    Except DriverError Nat × Accounts :=
  let (answer, state) := (accounts.get s.table).execute now s
  (answer, accounts.set s.table state)

def query (s : Statement) (accounts : Accounts) : Except DriverError (List ResultRow) × Accounts :=
  let (answer, state) := (accounts.get s.table).query s
  (answer, accounts.set s.table state)

/-- Answers statements from the tables, with a fixed time at the database. -/
def driver (now : Calendar.Instant) : Driver Accounts := ⟨execute now, query⟩

end Accounts
end AccountStore.Memory

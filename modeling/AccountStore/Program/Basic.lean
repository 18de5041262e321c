import AccountStore.Error
import AccountStore.Statement.Basic

/-!
Programs: what an operation does, statement by statement.

A program sends a statement and goes on with the driver's answer, be it rows, a number of rows or an
error. `pause` stands before each part of a service call that a deadline can cut off.
-/

namespace AccountStore

inductive Program (α : Type) where
  | done (result : Except AccountError α)
  /-- Sends a statement and goes on with the number of rows it affected, if it did not fail. -/
  | execute (statement : Statement) (next : Except DriverError Nat → Program α)
  /-- Sends a statement and goes on with the rows it returned, if it did not fail. -/
  | query (statement : Statement) (next : Except DriverError (List ResultRow) → Program α)
  /-- Lets time pass. -/
  | pause (next : Program α)

namespace Program

def pure (a : α) : Program α :=
  .done (.ok a)

def fail (e : AccountError) : Program α :=
  .done (.error e)

def bind (p : Program α) (f : α → Program β) : Program β :=
  match p with
  | .done (.ok a) => f a
  | .done (.error e) => .fail e
  | .execute s next => .execute s fun answer => (next answer).bind f
  | .query s next => .query s fun answer => (next answer).bind f
  | .pause next => .pause (next.bind f)

instance : Monad Program where
  pure := pure
  bind := bind

/-- Goes on with what a statement gave, or ends with what its driver's error becomes. -/
def reply (next : β → Program α) : Except DriverError β → Program α
  | .ok b => next b
  | .error e => .fail (.ofDriver e)

/-- Sends a statement that returns no rows, and gives the number of rows it affected. -/
def send (s : Statement) : Program Nat :=
  .execute s (reply .pure)

/-- Sends a statement and gives the rows it returned. -/
def rows (s : Statement) : Program (List ResultRow) :=
  .query s (reply .pure)

/-- Goes on with a value, or ends with its error. -/
def ofExcept (toError : ε → AccountError) : Except ε α → Program α
  | .ok a => .pure a
  | .error e => .fail (toError e)

/-- Goes on with a value, or ends with an error if there is none. -/
def ofOption (absent : AccountError) : Option α → Program α
  | some a => .pure a
  | none => .fail absent

end Program
end AccountStore

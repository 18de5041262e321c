import AccountStore.Config
import AccountStore.Error

/-!
The log of a command.

Events go to standard output, between what a command prints. Which events are written, and how, is up
to a library for logs, which takes its filter from `RUST_LOG`. Notes for debugging are left out, and
so is what the libraries log by themselves.
-/

namespace AccountStore

/-- What is logged, from the level info up. -/
inductive LogEvent where
  | ready (maxConnections : UInt32)
  | migrated
  | rolledBack
  | dropping
  | reset
  | reachable
  | deleted (table : Table) (id : String)
  /-- A row was not changed, and yet it is live. -/
  | stillLive (id : String)
  | operationFailed (operation : String) (error : AccountError)
  | deadlineElapsed (operation : String) (milliseconds : Nat)
  | commandFailed (error : AccountError)
  /-- The cause that a message for users hides. -/
  | hidden (error : AccountError)
deriving DecidableEq

namespace LogEvent

/-- What a call under a deadline logs if it fails. That a row is missing is not worth a line. -/
def ofCall (operation : String) (milliseconds : Nat) : AccountError → List LogEvent
  | .timedOut _ => [deadlineElapsed operation milliseconds]
  | e => if e.isMissing then [] else [operationFailed operation e]

/-- What the end of a command logs if it fails. -/
def ofFailure (e : AccountError) : List LogEvent :=
  commandFailed e :: match e with
    | .database _ => [hidden e]
    | .malformed _ => [hidden e]
    | .internal _ => [hidden e]
    | _ => []

end LogEvent

end AccountStore

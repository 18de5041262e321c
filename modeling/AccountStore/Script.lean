import AccountStore.Migration
import AccountStore.Program.Run

/-!
A scripted connection: answers prepared in advance, and a log of the statements sent.

The n-th execution takes the n-th prepared count, the n-th query the n-th prepared list of rows;
past the end of either the connection fails. Statements that fail are logged too.
-/

namespace AccountStore

structure Script where
  executions : List (Except DriverError Nat)
  queries : List (Except DriverError (List ResultRow))
  /-- The statements sent so far, the first one first. -/
  log : List Statement

namespace Script

/-- What a connection says past the end of its script. -/
def exhausted : DriverError :=
  .failure .execution "no answer prepared"

def execute (s : Statement) (script : Script) : Except DriverError Nat × Script :=
  match script.executions with
  | [] => (.error exhausted, { script with log := script.log ++ [s] })
  | answer :: rest => (answer, { script with executions := rest, log := script.log ++ [s] })

def query (s : Statement) (script : Script) : Except DriverError (List ResultRow) × Script :=
  match script.queries with
  | [] => (.error exhausted, { script with log := script.log ++ [s] })
  | answer :: rest => (answer, { script with queries := rest, log := script.log ++ [s] })

def driver : Driver Script := ⟨execute, query⟩

end Script

/-- Carries definitions out with prepared answers, and gives those that were sent. -/
def Migration.runScripted (answers : List (Except DriverError Nat)) :
    List Definition → Except AccountError Unit × List Definition
  | [] => (.ok (), [])
  | d :: rest =>
      match answers with
      | [] => (.error (.ofDriver Script.exhausted), [d])
      | .error e :: _ => (.error (.ofDriver e), [d])
      | .ok _ :: answers =>
          let (result, sent) := runScripted answers rest
          (result, d :: sent)

end AccountStore

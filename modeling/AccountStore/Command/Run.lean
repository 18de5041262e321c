import AccountStore.Command.Arguments
import AccountStore.Command.Log
import AccountStore.Json.Writer
import AccountStore.Memory.Database

/-!
Running commands on a database.

Account commands bring the schema up to date first. Commands print and log to standard output as they
go; one that fails also puts a line for users on standard error. Wrong usage ends with exit code 2
before anything is opened.
-/

namespace AccountStore.Command
open Memory

/-- What goes to standard output at once. -/
inductive Line where
  | printed (text : String)
  | logged (event : LogEvent)
deriving DecidableEq

def Line.text (write : LogEvent → String) : Line → String
  | printed text => text
  | logged event => write event

/-- How a command ended, what it has put on standard output until then, and the database after it. -/
structure Ran where
  result : Except AccountError Unit
  output : List Line
  db : Database

/-- A command that has put some lines on standard output before. -/
def Ran.after (lines : List Line) (ran : Ran) : Ran :=
  { ran with output := lines ++ ran.output }

def Ran.failed (e : DriverError) (db : Database) : Ran := ⟨.error (.ofDriver e), [], db⟩

structure Outcome where
  exitCode : UInt32
  output : List Line
  errors : String
deriving DecidableEq

namespace Outcome

/-- All that standard output shows, for a way to write events. -/
def text (write : LogEvent → String) (outcome : Outcome) : String :=
  String.join (outcome.output.map (·.text write))

/-- The outcome of a command that has put some lines on standard output. -/
def ofResult (output : List Line) : Except AccountError Unit → Outcome
  | .ok () => ⟨0, output, ""⟩
  | .error e =>
      ⟨1, output ++ (LogEvent.ofFailure e).map .logged, "error: " ++ e.userMessage ++ "\n"⟩

/-- Usage and help texts belong to the reader of the arguments and are left out. -/
def ofStop : Stop → Outcome
  | .usage => ⟨2, [], ""⟩
  | .help => ⟨0, [], ""⟩

end Outcome

/-- The map that filter arguments give: of the values of one key the last one counts. -/
def filterEntries : List String → Except Rejection (List (String × String))
  | raws => do
      let pairs ← raws.mapM fun raw => match Text.splitFirst? '=' raw.toList with
        | some (key, value) => .ok (String.ofList key, String.ofList value)
        | none => .error (.notKeyValue raw)
      return pairs.foldl (fun entries pair => entries.filter (·.1 ≠ pair.1) ++ [pair]) []

def filters (raws : List String) : Except Rejection (List Filter) := do
  Filter.ofMap (← filterEntries raws)

/-- What a successful call prints. -/
def answerText {α : Type} [Account α] : Answer α → String
  | .done => ""
  | .id _ => ""
  | .account a => Json.prettyText (Account.toJson a) ++ "\n"
  | .accounts list => Json.prettyText (.array (list.map Account.toJson)) ++ "\n"
  | .truth b => if b then "true\n" else "false\n"

/-- The service call of an account command. -/
def serviceCall {α : Type} [Account α] : AccountAction → Except Rejection (ServiceCall α)
  | .get id => .ok (.get id)
  | .list options => (filters options.filters).map (.list options.page)
  | .delete id => .ok (.delete id)
  | .checkField field value => .ok (.checkField field value)

/-- What an account command puts on standard output after its call: a deletion is logged, all else
is printed. -/
def answerLines {α : Type} [Account α] (action : AccountAction) (answer : Answer α) : List Line :=
  match action with
  | .delete id => [.logged (.deleted (Account.table α) id)]
  | _ => [.printed (answerText answer)]

/-- What an account command logs of a call that failed. -/
def failureEvents (operation : String) (limit : Nat) (action : AccountAction) (e : AccountError) :
    List LogEvent :=
  (match action, e with
    | .delete id, .internal _ => [.stillLive id]
    | _, _ => []) ++ LogEvent.ofCall operation limit e

/-- Runs an account command on a database whose schema is up to date. -/
def runAccount (α : Type) [Account α] (timing : Timing) (stamp : Stamp) (action : AccountAction)
    (db : Database) : Ran :=
  match serviceCall (α := α) action with
  | .error rejection => ⟨.error (.validation rejection), [], db⟩
  | .ok call =>
      match (Call.service call).run (Database.driver stamp.now) timing stamp db with
      | (.ok answer, db) => ⟨.ok (), answerLines action answer, db⟩
      | (.error e, db) =>
          ⟨.error e, (failureEvents call.operation timing.limit action e).map .logged, db⟩

def statusLine (entry : String × Bool) : String :=
  (if entry.2 then "[x] " else "[ ] ") ++ entry.1 ++ "\n"

/-- Ends after a change to the schema, with an event that is logged if it was made. -/
def changed (event : LogEvent) : Except DriverError Unit × Database → Ran
  | (.ok (), db) => ⟨.ok (), [.logged event], db⟩
  | (.error e, db) => .failed e db

def runMigrate (action : MigrateAction) (db : Database) : Ran :=
  match action with
  | .up => changed .migrated db.up
  | .down => changed .rolledBack db.down
  | .fresh => (changed .reset db.fresh).after [.logged .dropping]
  | .status =>
      match db.status with
      | .ok entries => ⟨.ok (), entries.map fun entry => .printed (statusLine entry), db⟩
      | .error e => .failed e db

/-- Runs a command on an open database. -/
def runOn (config : ServiceConfig) (stamp : Stamp) (command : Command) (db : Database) : Ran :=
  match command with
  | .migrate action => runMigrate action db
  | .ping => ⟨.ok (), [.logged .reachable], db⟩
  | .account table action =>
      match db.up with
      | (.error e, db) => .failed e db
      | (.ok (), db) =>
          let timing : Timing := ⟨0, config.deadline.milliseconds⟩
          Ran.after [.logged (.ready config.database.maxConnections)] <| match table with
            | .users => runAccount User timing stamp action db
            | .admins => runAccount Admin timing stamp action db

/-- What settings open. -/
inductive Opening where
  /-- Nothing, for a reason that the driver gives. -/
  | nothing (cause : DriverError)
  /-- The database at hand. -/
  | here
  /-- Another database; what becomes of it is not followed. -/
  | elsewhere (db : Database)

/-- Runs a command on the database that the settings open. -/
def run (opens : DatabaseConfig → Opening) (config : ServiceConfig) (stamp : Stamp)
    (command : Command) (db : Database) : Ran :=
  match opens config.database with
  | .nothing cause => .failed cause db
  | .here => runOn config stamp command db
  | .elsewhere other => { runOn config stamp command other with db }

/-- Reads an argument list and runs its command in an environment. -/
def runLine (opens : DatabaseConfig → Opening) (env : Environment) (stamp : Stamp)
    (args : List String) (db : Database) : Outcome × Database :=
  match read args with
  | .error stop => (.ofStop stop, db)
  | .ok command =>
      let ran := run opens (ServiceConfig.ofEnvironment env) stamp command db
      (.ofResult ran.output ran.result, ran.db)

/-- Runs command lines one after another on one database. -/
def runLines (opens : DatabaseConfig → Opening) (env : Environment) (stamp : Stamp) :
    List (List String) → Database → List Outcome × Database
  | [], db => ([], db)
  | args :: rest, db =>
      let (outcome, db) := runLine opens env stamp args db
      let (outcomes, db) := runLines opens env stamp rest db
      (outcome :: outcomes, db)

end AccountStore.Command

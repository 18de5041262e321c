import AccountStore.Program.Run
import AccountStore.Store

/-!
Account services: validated operations under a deadline.

A service call fills in and checks what it is given before it sends anything. Every call on a table
is a part of its own that the deadline may cut off; a creation has two, the check that nobody holds
the contact details and the insertion.
-/

namespace AccountStore
namespace Service

variable {α : Type} [Account α]

/-- Goes on if an account breaks no rule. -/
def checked (account : α) (next : Program β) : Program β :=
  match Account.violations account with
  | [] => next
  | violations => .fail (.validation (.violations violations))

/-- Creates an account, filling in what is empty, and returns it as it was stored. -/
def create (stamp : Stamp) (account : α) : Program α :=
  let account := Account.assignIdentity stamp account
  checked account <| .pause do
    if ← Store.ifExists (Account.table α) (Account.predicate (Account.guard account)) then
      .fail (.conflict (Account.subject α))
    else .pause (Store.createAndFetch account)

/-- Replaces the updatable fields of a live account, with the time of the update. -/
def update (stamp : Stamp) (account : α) : Program Unit :=
  let account := Account.touch stamp.now account
  checked account (.pause (Store.update account))

/-- Whether a live account holds a value in a named field. -/
def checkField (table : Table) (name value : String) : Program Bool :=
  match Field.ofName? table name with
  | some field => .pause (Store.checkField table field value)
  | none => .fail (.validation (.field table name))

end Service

/-- A call of an account service. -/
inductive ServiceCall (α : Type) [Account α] where
  | create (account : α)
  | get (id : String)
  | list (page : Pagination) (filters : List Filter)
  | update (account : α)
  | delete (id : String)
  | checkField (name value : String)
  | ifExists (lookup : Account.Lookup α)
  | changePassword (contact : Account.Contact α) (password : String)
  | updateRefreshToken (id token : String)

namespace ServiceCall

variable {α : Type} [Account α]

/-- The name that a timeout reports. -/
def operation (call : ServiceCall α) : String :=
  Account.repository α ++ "." ++ match call with
    | create _ => "Create"
    | get _ => "Get"
    | list .. => "List"
    | update _ => "Update"
    | delete _ => "Delete"
    | checkField .. => "CheckField"
    | ifExists lookup => Account.lookupName lookup
    | changePassword .. => "ChangePassword"
    | updateRefreshToken .. => "UpdateRefreshToken"

def program (stamp : Stamp) : ServiceCall α → Program (Answer α)
  | create account => .account <$> Service.create stamp account
  | get id => .pause (StoreCall.get id).program
  | list page filters => .pause (StoreCall.list page filters).program
  | update account => (fun _ => .done) <$> Service.update stamp account
  | delete id => .pause (StoreCall.delete id).program
  | checkField name value => .truth <$> Service.checkField (Account.table α) name value
  | ifExists lookup => .pause (StoreCall.ifExists lookup).program
  | changePassword contact password => .pause (StoreCall.changePassword contact password).program
  | updateRefreshToken id token => .pause (StoreCall.updateRefreshToken id token).program

end ServiceCall

/-- A call on either layer. -/
inductive Call (α : Type) [Account α] where
  | store (call : StoreCall α)
  | service (call : ServiceCall α)

/-- Runs a call; only service calls have a deadline. -/
def Call.run {α : Type} [Account α] (driver : Driver σ) (timing : Timing) (stamp : Stamp) :
    Call α → σ → Except AccountError (Answer α) × σ
  | store call, state => call.program.run driver state
  | service call, state =>
      (call.program stamp).runWithin driver timing call.operation 0 state

/-- A call on one of the two tables. -/
inductive Step where
  | user (call : Call User)
  | admin (call : Call Admin)

inductive StepAnswer where
  | user (answer : Answer User)
  | admin (answer : Answer Admin)
deriving DecidableEq

def Step.run (driver : Driver σ) (timing : Timing) (stamp : Stamp) (step : Step) (state : σ) :
    Except AccountError StepAnswer × σ :=
  match step with
  | user call =>
      let (result, state) := call.run driver timing stamp state
      (result.map .user, state)
  | admin call =>
      let (result, state) := call.run driver timing stamp state
      (result.map .admin, state)

/-- Runs steps one after another, each with its own stamp, which gives the time at the database
too. -/
def runSteps (driverAt : Calendar.Instant → Driver σ) (timing : Timing) :
    List (Stamp × Step) → σ → List (Except AccountError StepAnswer) × σ
  | [], state => ([], state)
  | (stamp, step) :: rest, state =>
      let (result, state) := step.run (driverAt stamp.now) timing stamp state
      let (results, state) := runSteps driverAt timing rest state
      (result :: results, state)

end AccountStore

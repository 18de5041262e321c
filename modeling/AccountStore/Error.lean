import AccountStore.Account.Violation
import AccountStore.Text.Digits

/-!
The errors of account operations.

A driver reports why it could not run a statement. Most of these reports are carried on, for the log;
what a caller is shown of an error is its code, a full message, the detail it carries, a message for
users and two hints, and none of these looks at what a driver said.
-/

namespace AccountStore

/-- What kind of failure a driver reports. -/
inductive FailureKind where
  | connection
  | execution
  | query
  | recordNotFound
  | recordNotInserted
  | recordNotUpdated
  | custom
  | type
  | json
  | migration
  | attributeNotSet
deriving DecidableEq, Repr

/-- A constraint that a statement would break, with the database's description. -/
inductive Constraint where
  | unique (description : String)
  | foreignKey (description : String)
deriving DecidableEq, Repr

inductive DriverError where
  | failure (kind : FailureKind) (text : String)
  | violated (constraint : Constraint)
  /-- A row does not hold what is read from it. -/
  | undecodable
deriving DecidableEq, Repr

/-- The statements whose columns are checked before they are built. -/
inductive Write where
  | insert
  | update
deriving DecidableEq, Repr

def Write.name : Write → String
  | insert => "insert"
  | update => "update"

/-- Why a statement cannot be built. -/
inductive Malformed where
  | noColumns (write : Write) (table : Table)
  | forbiddenColumn (write : Write) (table : Table) (column : Column)
  /-- As many values as columns are needed. -/
  | arity (columns values : Nat)
  | other (text : String)
deriving DecidableEq

def Malformed.message : Malformed → String
  | noColumns write table => s!"{write.name} on {table.name} has no columns"
  | forbiddenColumn write table column =>
      s!"{write.name} on {table.name} may not write column {column.name table}"
  | arity columns values =>
      "Columns and values length mismatch: " ++ String.ofList (Text.decimal columns) ++ " != " ++
        String.ofList (Text.decimal values)
  | other text => text

/-- Why an input is refused. -/
inductive Rejection where
  | violations (list : List Violation)
  | filterKey (key : String)
  | createdAt (value : String)
  | field (table : Table) (name : String)
  /-- A filter argument without an equals sign. -/
  | notKeyValue (raw : String)
  | other (text : String)
deriving DecidableEq

namespace Rejection

def message : Rejection → String
  | violations list => Violation.message list
  | filterKey key => s!"unsupported filter key '{key}'"
  | createdAt value => s!"invalid created_at value '{value}'"
  | field table name => s!"field '{name}' cannot be checked on {table.name}"
  | notKeyValue raw => s!"filter '{raw}' is not KEY=VALUE"
  | other text => text

/-- The message of a refusal where it stands alone. -/
def fullMessage (r : Rejection) : String :=
  "Validation error: " ++ r.message

end Rejection

inductive AccountError where
  /-- No such row was ever stored. -/
  | notFound
  /-- The row carries a deletion marker. -/
  | alreadyDeleted
  | conflict (subject : String)
  | validation (rejection : Rejection)
  | malformed (cause : Malformed)
  /-- The database failed, as its driver says. -/
  | database (cause : DriverError)
  | timedOut (operation : String)
  | internal (cause : String)
deriving DecidableEq

namespace AccountError

def code : AccountError → String
  | notFound => "NOT_FOUND"
  | alreadyDeleted => "ALREADY_DELETED"
  | conflict _ => "CONFLICT"
  | validation _ => "VALIDATION_ERROR"
  | malformed _ => "BUILD_ERROR"
  | database _ => "DATABASE_ERROR"
  | timedOut _ => "TIMEOUT"
  | internal _ => "INTERNAL_ERROR"

def message : AccountError → String
  | notFound => "Resource not found"
  | alreadyDeleted => "Resource has been deleted"
  | conflict subject => s!"{subject} already exists"
  | validation rejection => rejection.message
  | malformed cause => s!"Failed to build statement: {cause.message}"
  | database _ => "Database error"
  | timedOut operation => s!"{operation} timed out"
  | internal _ => "Internal server error"

/-- The text that an error carries. -/
def detail? : AccountError → Option String
  | conflict subject => some subject
  | validation rejection => some rejection.message
  | malformed cause => some cause.message
  | timedOut operation => some operation
  | internal cause => some cause
  | notFound => none
  | alreadyDeleted => none
  | database _ => none

/-- The message for users: internal causes are hidden, and a conflict is not said to exist twice. -/
def userMessage : AccountError → String
  | conflict subject =>
      if subject.endsWith "already exists" then subject else s!"{subject} already exists"
  | malformed _ => "An internal error occurred"
  | database _ => "A database error occurred"
  | internal _ => "An internal error occurred"
  | e => e.message

/-- The row never existed or is deleted. -/
def isMissing : AccountError → Bool
  | notFound => true
  | alreadyDeleted => true
  | _ => false

/-- The same call may succeed later. -/
def isRetryable : AccountError → Bool
  | database _ => true
  | timedOut _ => true
  | _ => false

/-- The error of a broken constraint, if it is one that callers are told. -/
def ofConstraint? : Constraint → Option AccountError
  | .unique _ => some (.conflict "Record")
  | .foreignKey _ => none

/-- The error that a driver's error becomes. -/
def ofDriver : DriverError → AccountError
  | .failure .recordNotFound _ => .notFound
  | .violated constraint => (ofConstraint? constraint).getD (.database (.violated constraint))
  | cause => .database cause

end AccountError
end AccountStore

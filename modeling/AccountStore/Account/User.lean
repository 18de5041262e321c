import AccountStore.Account.Value
import AccountStore.Account.Violation
import AccountStore.Json.Decode

/-!
End-user accounts.

Empty text stands for a missing birth date, the epoch for a time of update that never was. The
ordinal belongs to the database: whatever an account carries there is not written.
-/

namespace AccountStore
open Calendar

/-- What a call may need to fill in: an identifier no account has, and the time. -/
structure Stamp where
  freshId : String
  now : Instant

structure User where
  id : String := ""
  ordinal : Int := 0
  firstName : String := ""
  lastName : String := ""
  birthDate : String := ""
  phoneNumber : String := ""
  password : String := ""
  gender : String := ""
  refreshToken : String := ""
  createdAt : Instant := .epoch
  updatedAt : Instant := .epoch
deriving DecidableEq, Inhabited

namespace User

/-- Fills in the identifier and the time of creation where they are empty. -/
def assignIdentity (stamp : Stamp) (user : User) : User :=
  { user with
    id := if user.id = "" then stamp.freshId else user.id
    createdAt := if user.createdAt = .epoch then stamp.now else user.createdAt }

def touch (now : Instant) (user : User) : User :=
  { user with updatedAt := now }

def isUpdated (user : User) : Bool :=
  user.updatedAt != .epoch

def violations (user : User) : List Violation :=
  Violation.ofLength .id (some 1) 64 user.id ++
  Violation.ofLength .firstName none 100 user.firstName ++
  Violation.ofLength .lastName none 100 user.lastName ++
  Violation.ofLength .phoneNumber (some 1) 20 user.phoneNumber

/-- The value of a column; columns that users do not have are NULL. -/
def cell (user : User) : Column → Value
  | .id => .text (some user.id)
  | .ordinal => .bigint (some user.ordinal)
  | .firstName => .text (some user.firstName)
  | .lastName => .text (some user.lastName)
  | .birthDate => .ofNullableText user.birthDate
  | .phoneNumber => .text (some user.phoneNumber)
  | .password => .text (some user.password)
  | .gender => .text (some user.gender)
  | .refreshToken => .text (some user.refreshToken)
  | .createdAt => .timestamp (some user.createdAt)
  | .updatedAt => .ofNullableTime user.updatedAt
  | .deletedAt => .timestamp none
  | _ => .text none

/-- The user of a row, if every column that is not nullable is there with its type. -/
def ofRow? (row : ResultRow) : Option User := do
  some {
    id := ← row.text? "id"
    ordinal := ← row.bigint? "user_order"
    firstName := ← row.text? "first_name"
    lastName := ← row.text? "last_name"
    birthDate := orZero (row.text? "birth_date")
    phoneNumber := ← row.text? "phone_number"
    password := ← row.text? "password"
    gender := ← row.text? "gender"
    refreshToken := ← row.text? "refresh_token"
    createdAt := ← row.time? "created_at"
    updatedAt := orZero (row.time? "updated_at") }

/-- The JSON form. Credentials are left out. -/
def toJson (user : User) : Json :=
  .object [
    ("id", .string user.id),
    ("user_order", .int user.ordinal),
    ("first_name", .string user.firstName),
    ("last_name", .string user.lastName),
    ("birth_date", .string user.birthDate),
    ("phone_number", .string user.phoneNumber),
    ("gender", .string user.gender),
    ("created_at", .string user.createdAt.text),
    ("updated_at", .string user.updatedAt.text)]

open Json.Decode in
def fields : Fields User :=
  User.mk <$> field "id" text <*> field "user_order" int64 <*> field "first_name" text <*>
    field "last_name" text <*> field "birth_date" text <*> field "phone_number" text <*>
    field "password" text <*> field "gender" text <*> field "refresh_token" text <*>
    field "created_at" time <*> field "updated_at" time

/-- Reads the JSON form, which must have the credentials. -/
def ofJson : Json → Except DecodeError User :=
  Json.Decode.record "User" fields

end User
end AccountStore

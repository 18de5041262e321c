import AccountStore.Account.User

/-!
Administrator accounts: what users have, an e-mail address, a role and employment details.
-/

namespace AccountStore
open Number Calendar

structure Admin where
  id : String := ""
  ordinal : Int := 0
  role : String := ""
  firstName : String := ""
  lastName : String := ""
  birthDate : String := ""
  phoneNumber : String := ""
  email : String := ""
  password : String := ""
  gender : String := ""
  salary : Real32 := default
  biography : String := ""
  startWorkYear : String := ""
  endWorkYear : String := ""
  workYears : Int := 0
  refreshToken : String := ""
  createdAt : Instant := .epoch
  updatedAt : Instant := .epoch
deriving DecidableEq, Inhabited

/-- The contact details that locate an administrator. -/
structure AdminContact where
  phoneNumber : String := ""
  email : String := ""
deriving DecidableEq, Inhabited, Repr

namespace AdminContact

def toJson (contact : AdminContact) : Json :=
  .object [("phone_number", .string contact.phoneNumber), ("email", .string contact.email)]

open Json.Decode in
def fields : Fields AdminContact :=
  AdminContact.mk <$> field "phone_number" text <*> field "email" text

def ofJson : Json → Except DecodeError AdminContact :=
  Json.Decode.record "AdminContact" fields

end AdminContact

namespace Admin

/-- The role of administrators that are created without one. -/
def defaultRole : String := "admin"

/-- Fills in the identifier, the time of creation and the role where they are empty. -/
def assignIdentity (stamp : Stamp) (admin : Admin) : Admin :=
  { admin with
    id := if admin.id = "" then stamp.freshId else admin.id
    createdAt := if admin.createdAt = .epoch then stamp.now else admin.createdAt
    role := if admin.role = "" then defaultRole else admin.role }

def touch (now : Instant) (admin : Admin) : Admin :=
  { admin with updatedAt := now }

def isUpdated (admin : Admin) : Bool :=
  admin.updatedAt != .epoch

def contact (admin : Admin) : AdminContact :=
  ⟨admin.phoneNumber, admin.email⟩

def violations (admin : Admin) : List Violation :=
  Violation.ofLength .id (some 1) 64 admin.id ++
  Violation.ofLength .firstName none 100 admin.firstName ++
  Violation.ofLength .lastName none 100 admin.lastName ++
  Violation.ofLength .phoneNumber (some 1) 20 admin.phoneNumber ++
  Violation.ofEmail .email admin.email ++
  Violation.ofReal .salary admin.salary ++
  Violation.ofLength .biography none 2000 admin.biography ++
  Violation.ofWhole .workYears admin.workYears

/-- The value of a column; the deletion marker is NULL. -/
def cell (admin : Admin) : Column → Value
  | .id => .text (some admin.id)
  | .ordinal => .bigint (some admin.ordinal)
  | .role => .text (some admin.role)
  | .firstName => .text (some admin.firstName)
  | .lastName => .text (some admin.lastName)
  | .birthDate => .ofNullableText admin.birthDate
  | .phoneNumber => .text (some admin.phoneNumber)
  | .email => .text (some admin.email)
  | .password => .text (some admin.password)
  | .gender => .text (some admin.gender)
  | .salary => .float (some admin.salary)
  | .biography => .text (some admin.biography)
  | .startWorkYear => .ofNullableText admin.startWorkYear
  | .endWorkYear => .ofNullableText admin.endWorkYear
  | .workYears => .bigint (some admin.workYears)
  | .refreshToken => .text (some admin.refreshToken)
  | .createdAt => .timestamp (some admin.createdAt)
  | .updatedAt => .ofNullableTime admin.updatedAt
  | .deletedAt => .timestamp none

/-- The administrator of a row, if every column that is not nullable is there with its type. -/
def ofRow? (row : ResultRow) : Option Admin := do
  some {
    id := ← row.text? "id"
    ordinal := ← row.bigint? "admin_order"
    role := ← row.text? "role"
    firstName := ← row.text? "first_name"
    lastName := ← row.text? "last_name"
    birthDate := orZero (row.text? "birth_date")
    phoneNumber := ← row.text? "phone_number"
    email := ← row.text? "email"
    password := ← row.text? "password"
    gender := ← row.text? "gender"
    salary := ← row.float? "salary"
    biography := ← row.text? "biography"
    startWorkYear := orZero (row.text? "start_work_year")
    endWorkYear := orZero (row.text? "end_work_year")
    workYears := ← row.bigint? "work_years"
    refreshToken := ← row.text? "refresh_token"
    createdAt := ← row.time? "created_at"
    updatedAt := orZero (row.time? "updated_at") }

/-- The JSON form. Credentials are left out. -/
def toJson (admin : Admin) : Json :=
  .object [
    ("id", .string admin.id),
    ("admin_order", .int admin.ordinal),
    ("role", .string admin.role),
    ("first_name", .string admin.firstName),
    ("last_name", .string admin.lastName),
    ("birth_date", .string admin.birthDate),
    ("phone_number", .string admin.phoneNumber),
    ("email", .string admin.email),
    ("gender", .string admin.gender),
    ("salary", .ofReal32 admin.salary),
    ("biography", .string admin.biography),
    ("start_work_year", .string admin.startWorkYear),
    ("end_work_year", .string admin.endWorkYear),
    ("work_years", .int admin.workYears),
    ("created_at", .string admin.createdAt.text),
    ("updated_at", .string admin.updatedAt.text)]

open Json.Decode in
def fields : Fields Admin :=
  Admin.mk <$> field "id" text <*> field "admin_order" int64 <*> field "role" text <*>
    field "first_name" text <*> field "last_name" text <*> field "birth_date" text <*>
    field "phone_number" text <*> field "email" text <*> field "password" text <*>
    field "gender" text <*> field "salary" real32 <*> field "biography" text <*>
    field "start_work_year" text <*> field "end_work_year" text <*> field "work_years" int64 <*>
    field "refresh_token" text <*> field "created_at" time <*> field "updated_at" time

/-- Reads the JSON form, which must have the credentials. -/
def ofJson : Json → Except DecodeError Admin :=
  Json.Decode.record "Admin" fields

end Admin
end AccountStore

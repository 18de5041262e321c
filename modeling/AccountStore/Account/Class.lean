import AccountStore.Account.Admin
import AccountStore.Statement.Basic

/-!
What users and administrators have in common, so that every operation is written once.

Users are located by their phone number. Administrators are located by their phone number and
e-mail address together, or by either of the two: a new administrator must not share both with
another, a password is reset for whoever has one of them.
-/

namespace AccountStore

class Account (α : Type) where
  table : Table
  /-- The contact details that name an account in a password reset. -/
  Contact : Type
  /-- The ways to ask whether an account exists. -/
  Lookup : Type
  predicate : Lookup → ContactPredicate
  /-- What must not exist already when this account is created. -/
  guard : α → Lookup
  reset : Contact → Lookup
  id : α → String
  cell : α → Column → Value
  ofRow? : ResultRow → Option α
  toJson : α → Json
  violations : α → List Violation
  assignIdentity : Stamp → α → α
  touch : Calendar.Instant → α → α
  /-- What a refused creation says exists already. -/
  subject : String
  /-- The first part of the names of operations. -/
  repository : String
  /-- The last part of the name of a lookup's operation. -/
  lookupName : Lookup → String

/-- Users are looked up by phone number. -/
structure UserLookup where
  phoneNumber : String
deriving DecidableEq, Repr

inductive AdminLookup where
  /-- The same administrator has both details. -/
  | both (contact : AdminContact)
  /-- An administrator has one of the details. -/
  | either (contact : AdminContact)
deriving DecidableEq, Repr

instance : Account User where
  table := .users
  Contact := String
  Lookup := UserLookup
  predicate l := .phone l.phoneNumber
  guard u := ⟨u.phoneNumber⟩
  reset phoneNumber := ⟨phoneNumber⟩
  id := User.id
  cell := User.cell
  ofRow? := User.ofRow?
  toJson := User.toJson
  violations := User.violations
  assignIdentity := User.assignIdentity
  touch := User.touch
  subject := "Phone number"
  repository := "userRepo"
  lookupName _ := "IfExists"

instance : Account Admin where
  table := .admins
  Contact := AdminContact
  Lookup := AdminLookup
  predicate
    | .both c => .both c.phoneNumber c.email
    | .either c => .either c.phoneNumber c.email
  guard a := .both a.contact
  reset c := .either c
  id := Admin.id
  cell := Admin.cell
  ofRow? := Admin.ofRow?
  toJson := Admin.toJson
  violations := Admin.violations
  assignIdentity := Admin.assignIdentity
  touch := Admin.touch
  subject := "Admin"
  repository := "adminRepo"
  lookupName
    | .both _ => "IfExists"
    | .either _ => "IfExistsEither"

end AccountStore

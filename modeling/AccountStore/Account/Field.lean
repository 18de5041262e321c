import AccountStore.Account.Column
import AccountStore.Json.Decode
import AccountStore.Text.Case

/-!
Fields as texts and as JSON values.

As a text a field is the name of its column. In JSON it is spelled from its label, in snake case.
-/

namespace AccountStore

/-- The words that say what a column holds. -/
def Column.label (table : Table) : Column → String
  | id => "Id"
  | ordinal => match table with
    | .users => "UserOrder"
    | .admins => "AdminOrder"
  | role => "Role"
  | firstName => "FirstName"
  | lastName => "LastName"
  | birthDate => "BirthDate"
  | phoneNumber => "PhoneNumber"
  | email => "Email"
  | password => "Password"
  | gender => "Gender"
  | salary => "Salary"
  | biography => "Biography"
  | startWorkYear => "StartWorkYear"
  | endWorkYear => "EndWorkYear"
  | workYears => "WorkYears"
  | refreshToken => "RefreshToken"
  | createdAt => "CreatedAt"
  | updatedAt => "UpdatedAt"
  | deletedAt => "DeletedAt"

namespace Field

variable {t : Table}

instance : ToString (Field t) := ⟨name⟩

/-- The name of a field in JSON. -/
def form (f : Field t) : String :=
  String.ofList (Text.snakeCase (f.column.label t).toList)

def toJson (f : Field t) : Json :=
  .string f.form

def ofJson (t : Table) : Json.Decode.Reader (Field t) :=
  Json.Decode.oneOf ((all t).map fun f => (f.form, f))

end Field
end AccountStore

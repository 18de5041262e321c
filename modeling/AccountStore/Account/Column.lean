/-!
The two tables and their columns.

Both tables keep the same kinds of columns under the same names, apart from the ordinal. A column
list fixes the order in which statements write and read columns.
-/

namespace AccountStore

inductive Table where
  | users
  | admins
deriving DecidableEq, Repr

inductive Column where
  | id
  /-- The sequence number that the database assigns. -/
  | ordinal
  | role
  | firstName
  | lastName
  | birthDate
  | phoneNumber
  | email
  | password
  | gender
  | salary
  | biography
  | startWorkYear
  | endWorkYear
  | workYears
  | refreshToken
  | createdAt
  | updatedAt
  /-- The deletion marker: NULL while the row is live. -/
  | deletedAt
deriving DecidableEq, Repr

namespace Column

/-- The name of a column in a table. -/
def name (table : Table) : Column → String
  | id => "id"
  | ordinal => match table with
    | .users => "user_order"
    | .admins => "admin_order"
  | role => "role"
  | firstName => "first_name"
  | lastName => "last_name"
  | birthDate => "birth_date"
  | phoneNumber => "phone_number"
  | email => "email"
  | password => "password"
  | gender => "gender"
  | salary => "salary"
  | biography => "biography"
  | startWorkYear => "start_work_year"
  | endWorkYear => "end_work_year"
  | workYears => "work_years"
  | refreshToken => "refresh_token"
  | createdAt => "created_at"
  | updatedAt => "updated_at"
  | deletedAt => "deleted_at"

end Column

namespace Table

def name : Table → String
  | users => "users"
  | admins => "admins"

/-- The columns that every read returns: all but the deletion marker. -/
def projection : Table → List Column
  | users =>
      [.id, .ordinal, .firstName, .lastName, .birthDate, .phoneNumber, .password, .gender,
       .refreshToken, .createdAt, .updatedAt]
  | admins =>
      [.id, .ordinal, .role, .firstName, .lastName, .birthDate, .phoneNumber, .email, .password,
       .gender, .salary, .biography, .startWorkYear, .endWorkYear, .workYears, .refreshToken,
       .createdAt, .updatedAt]

def columns (t : Table) : List Column :=
  t.projection ++ [.deletedAt]

/-- The columns that a new row is written with. -/
def insertable (t : Table) : List Column :=
  t.projection.filter fun c => c ∉ [.ordinal, .updatedAt]

/-- The columns that an update replaces. -/
def updatable (t : Table) : List Column :=
  t.projection.filter fun c => c ∉ [.id, .ordinal, .refreshToken, .createdAt]

/-- The columns that may be checked for a value. -/
def checkable : Table → List Column
  | users => [.id, .firstName, .lastName, .birthDate, .phoneNumber, .gender, .refreshToken]
  | admins =>
      [.id, .role, .firstName, .lastName, .birthDate, .phoneNumber, .email, .gender, .refreshToken]

/-- The columns of which no two live rows may hold the same value. -/
def liveUnique : Table → List Column
  | users => [.phoneNumber]
  | admins => [.phoneNumber, .email]

/-- The column of a name. -/
def column? (t : Table) (name : String) : Option Column :=
  t.columns.find? fun c => c.name t == name

end Table

/-- A column that may be checked for a value. -/
structure Field (t : Table) where
  column : Column
  checkable : column ∈ t.checkable
deriving DecidableEq

namespace Field

/-- Every field of a table, in the order in which messages offer them. -/
def all (t : Table) : List (Field t) :=
  t.checkable.attach.map fun c => ⟨c.1, c.2⟩

def name (f : Field t) : String :=
  f.column.name t

/-- The field that a text names. -/
def ofName? : (t : Table) → String → Option (Field t)
  | .users, name =>
      match name with
      | "id" => some ⟨.id, by decide⟩
      | "first_name" => some ⟨.firstName, by decide⟩
      | "last_name" => some ⟨.lastName, by decide⟩
      | "birth_date" => some ⟨.birthDate, by decide⟩
      | "phone_number" => some ⟨.phoneNumber, by decide⟩
      | "gender" => some ⟨.gender, by decide⟩
      | "refresh_token" => some ⟨.refreshToken, by decide⟩
      | _ => none
  | .admins, name =>
      match name with
      | "id" => some ⟨.id, by decide⟩
      | "role" => some ⟨.role, by decide⟩
      | "first_name" => some ⟨.firstName, by decide⟩
      | "last_name" => some ⟨.lastName, by decide⟩
      | "birth_date" => some ⟨.birthDate, by decide⟩
      | "phone_number" => some ⟨.phoneNumber, by decide⟩
      | "email" => some ⟨.email, by decide⟩
      | "gender" => some ⟨.gender, by decide⟩
      | "refresh_token" => some ⟨.refreshToken, by decide⟩
      | _ => none

end Field
end AccountStore

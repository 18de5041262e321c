import AccountStore.Account.Admin
import AccountStore.Config
import AccountStore.Proofs.Calendar.Written
import AccountStore.Proofs.Json.Record
import AccountStore.Query.Filter
import AccountStore.Query.Pagination

/-!
# Serialised forms

The JSON form of an account has no credentials: it does not depend on them, and an account cannot be
read from it, but is once they are added (`HidesCredentials`). Contacts, filters, pages and settings
are read back from their JSON form as they were. In no record do unknown members count.
-/

namespace AccountStore
open Json Json.Decode Number Calendar

/-! ## Values -/

/-- The number is one that a 64-bit integer holds. -/
def IsInt64 (n : Int) : Prop :=
  -9223372036854775808 ≤ n ∧ n ≤ 9223372036854775807

instance (n : Int) : Decidable (IsInt64 n) :=
  inferInstanceAs (Decidable (_ ∧ _))

section

variable {look : String → Option Json} {name : String}

theorem int64_int {n : Int} (bounded : IsInt64 n) : int64 (.int n) = .ok n :=
  if_pos bounded

theorem uint64_toNat (n : UInt64) : uint64 (.int n.toNat) = .ok n := by
  have bound := n.toNat_lt
  rw [uint64, whole, if_pos ⟨by omega, by omega⟩]
  simp [Except.map]

theorem uint32_toNat (n : UInt32) : uint32 (.int n.toNat) = .ok n := by
  have bound := n.toNat_lt
  rw [uint32, whole, if_pos ⟨by omega, by omega⟩]
  simp [Except.map]

theorem time_text (t : Instant) : time (.string t.text) = .ok t := by
  simp [time, readLenient?_text]

theorem gives_text {s : String} (found : look name = some (.string s)) :
    (field name text).Gives look (.ok s) :=
  gives_field found rfl

theorem gives_int64 {n : Int} (bounded : IsInt64 n) (found : look name = some (.int n)) :
    (field name int64).Gives look (.ok n) :=
  gives_field found (int64_int bounded)

theorem gives_time {t : Instant} (found : look name = some (.string t.text)) :
    (field name time).Gives look (.ok t) :=
  gives_field found (time_text t)

end

/-- The shortest decimal of the number is read back as the number, and so is what its layout
spells. -/
def Number.Real32.ReadsBack (x : Real32) : Prop :=
  ∀ d, x.decimal? .even = some d → Real32.ofDecimal d = x ∧ Real32.ofDecimal (spelled .single d) = x

theorem real32_ofReal32 {x : Real32} (finite : x.isFinite = true) (readsBack : x.ReadsBack) :
    real32 (.ofReal32 x) = .ok x ∧ real32 (respelled (.ofReal32 x)) = .ok x := by
  have shortest : x.decimal? .even = some (binary32.shortest .even x.bits.toNat) := if_pos finite
  obtain ⟨plain, spelled⟩ := readsBack _ shortest
  rw [Json.ofReal32, shortest, respelled]
  exact ⟨congrArg Except.ok plain, congrArg Except.ok spelled⟩

/-! ## Records -/

instance : Record User where
  toJson := User.toJson
  fields := User.fields
  ofJson := User.ofJson
  lawful := by
    unfold User.fields
    infer_instance
  distinct u := by simp [User.toJson, Json.members]

instance : Record Admin where
  toJson := Admin.toJson
  fields := Admin.fields
  ofJson := Admin.ofJson
  lawful := by
    unfold Admin.fields
    infer_instance
  distinct a := by simp [Admin.toJson, Json.members]

instance : Record AdminContact where
  toJson := AdminContact.toJson
  fields := AdminContact.fields
  ofJson := AdminContact.ofJson
  lawful := by
    unfold AdminContact.fields
    infer_instance
  distinct contact := by simp [AdminContact.toJson, Json.members]

instance : Record Pagination where
  toJson := Pagination.toJson
  fields := Pagination.fields
  ofJson := Pagination.ofJson
  lawful := by
    unfold Pagination.fields
    infer_instance
  distinct page := by simp [Pagination.toJson, Json.members]

instance : Record DatabaseConfig where
  toJson := DatabaseConfig.toJson
  fields := DatabaseConfig.fields
  ofJson := DatabaseConfig.ofJson
  lawful := by
    unfold DatabaseConfig.fields
    infer_instance
  distinct config := by simp [DatabaseConfig.toJson, Json.members]

instance : Record DeadlineConfig where
  toJson := DeadlineConfig.toJson
  fields := DeadlineConfig.fields
  ofJson := DeadlineConfig.ofJson
  lawful := by
    unfold DeadlineConfig.fields
    infer_instance
  distinct config := by simp [DeadlineConfig.toJson, Json.members]

/-! ## Records without secrets -/

/-- An object with the members of the JSON form is read as the value. -/
def RoundTrips {α : Type} [Record α] (a : α) : Prop :=
  Record.Reads (Record.toJson a).members (.ok a)

theorem roundTrips_contact (contact : AdminContact) : RoundTrips contact := by
  let look := member? contact.toJson.members
  have phoneNumber : (field "phone_number" text).Gives look (.ok contact.phoneNumber) :=
    gives_text rfl
  have email : (field "email" text).Gives look (.ok contact.email) := gives_text rfl
  have gives : AdminContact.fields.Gives look (.ok contact) :=
    (phoneNumber.map AdminContact.mk).seq email
  exact Record.reads_of_gives (Record.distinct contact) gives gives

theorem roundTrips_pagination (page : Pagination) : RoundTrips page := by
  let look := member? page.toJson.members
  have limit : (fieldOr 0 "limit" uint64).Gives look (.ok page.limit) :=
    gives_fieldOr rfl (uint64_toNat page.limit)
  have offset : (fieldOr 0 "offset" uint64).Gives look (.ok page.offset) :=
    gives_fieldOr rfl (uint64_toNat page.offset)
  have gives : Pagination.fields.Gives look (.ok page) := (limit.map Pagination.mk).seq offset
  exact Record.reads_of_gives (Record.distinct page) gives gives

theorem roundTrips_database (config : DatabaseConfig) : RoundTrips config := by
  let look := member? config.toJson.members
  have url : (field "url" text).Gives look (.ok config.url) := gives_text rfl
  have greatest : (field "max_connections" uint32).Gives look (.ok config.maxConnections) :=
    gives_field rfl (uint32_toNat config.maxConnections)
  have least : (field "min_connections" uint32).Gives look (.ok config.minConnections) :=
    gives_field rfl (uint32_toNat config.minConnections)
  have gives : DatabaseConfig.fields.Gives look (.ok config) :=
    ((url.map DatabaseConfig.mk).seq greatest).seq least
  exact Record.reads_of_gives (Record.distinct config) gives gives

theorem roundTrips_deadline (config : DeadlineConfig) : RoundTrips config := by
  let look := member? config.toJson.members
  have timeout : (field "timeout_seconds" uint64).Gives look (.ok config.timeoutSeconds) :=
    gives_field rfl (uint64_toNat config.timeoutSeconds)
  have gives : DeadlineConfig.fields.Gives look (.ok config) := timeout.map DeadlineConfig.mk
  exact Record.reads_of_gives (Record.distinct config) gives gives

/-! ## Accounts -/

/-- The members that are left out. -/
def credentials (password refreshToken : String) : List (String × Json) :=
  [("password", .string password), ("refresh_token", .string refreshToken)]

/-- An account can be read from its JSON form only after the credentials were put back. -/
structure HidesCredentials {α : Type} [Record α] (withCredentials : String → String → α → α)
    (a : α) : Prop where
  independent (password refreshToken : String) :
    Record.toJson (withCredentials password refreshToken a) = Record.toJson a
  absent : ∀ m ∈ (Record.toJson a).members, m.1 ≠ "password" ∧ m.1 ≠ "refresh_token"
  refused : Record.Reads (α := α) (Record.toJson a).members (.error (.missingField "password"))
  restored (password refreshToken : String) :
    Record.Reads ((Record.toJson a).members ++ credentials password refreshToken)
      (.ok (withCredentials password refreshToken a))

theorem member?_append_left {members : List (String × Json)} {others : List (String × Json)}
    (distinct : ((members ++ others).map Prod.fst).Nodup) :
    ∀ m ∈ members, member? (members ++ others) m.1 = some m.2 := fun _ member =>
  (member?_eq_some_iff distinct).2 (List.mem_append_left others member)

namespace User

def withCredentials (password refreshToken : String) (u : User) : User :=
  { u with password := password, refreshToken := refreshToken }

/-- What a user is read from: the members of the JSON form, and what there is for credentials. -/
theorem gives {u : User} (ordinal : IsInt64 u.ordinal) {look : String → Option Json}
    (found : ∀ m ∈ u.toJson.members, look m.1 = some m.2)
    {password refreshToken : Except DecodeError String}
    (secret : (field "password" text).Gives look password)
    (token : (field "refresh_token" text).Gives look refreshToken) :
    User.fields.Gives look (do return u.withCredentials (← password) (← refreshToken)) := by
  simp only [toJson, Json.members, List.forall_mem_cons] at found
  obtain ⟨id, order, firstName, lastName, birthDate, phoneNumber, gender, createdAt, updatedAt, -⟩ :=
    found
  have first := ((((((gives_text id).map User.mk).seq (gives_int64 ordinal order)).seq
    (gives_text firstName)).seq (gives_text lastName)).seq (gives_text birthDate)).seq
    (gives_text phoneNumber)
  have all := ((((first.seq secret).seq (gives_text gender)).seq token).seq
    (gives_time createdAt)).seq (gives_time updatedAt)
  cases password <;> cases refreshToken <;> exact all

theorem hidesCredentials {u : User} (ordinal : IsInt64 u.ordinal) :
    HidesCredentials withCredentials u where
  independent _ _ := rfl
  absent := by simp [Record.toJson, toJson, Json.members]
  refused := by
    have found : ∀ m ∈ u.toJson.members, member? u.toJson.members m.1 = some m.2 :=
      fun m => (member?_eq_some_iff (Record.distinct u)).2
    have gives := gives ordinal found (gives_field_of_none rfl) (gives_field_of_none rfl)
    exact Record.reads_of_gives (Record.distinct u) gives gives
  restored password refreshToken := by
    have distinct :
        ((u.toJson.members ++ credentials password refreshToken).map Prod.fst).Nodup := by
      simp [toJson, Json.members, credentials]
    have gives := gives ordinal (member?_append_left distinct) (gives_text rfl) (gives_text rfl)
    exact Record.reads_of_gives distinct gives gives

end User

namespace Admin

def withCredentials (password refreshToken : String) (a : Admin) : Admin :=
  { a with password := password, refreshToken := refreshToken }

/-- What an administrator is read from; the salary may be spelled in another way. -/
theorem gives {a : Admin} (ordinal : IsInt64 a.ordinal) (workYears : IsInt64 a.workYears)
    {look : String → Option Json}
    (found : ∀ m ∈ a.toJson.members, m.1 ≠ "salary" → look m.1 = some m.2)
    (salary : (field "salary" real32).Gives look (.ok a.salary))
    {password refreshToken : Except DecodeError String}
    (secret : (field "password" text).Gives look password)
    (token : (field "refresh_token" text).Gives look refreshToken) :
    Admin.fields.Gives look (do return a.withCredentials (← password) (← refreshToken)) := by
  simp only [toJson, Json.members, List.forall_mem_cons, ne_eq, String.reduceEq, not_false_eq_true,
    forall_const, not_true_eq_false, false_implies, true_and] at found
  obtain ⟨id, order, role, firstName, lastName, birthDate, phoneNumber, email, gender, biography,
    startYear, endYear, years, createdAt, updatedAt, -⟩ := found
  have first := ((((((((gives_text id).map Admin.mk).seq (gives_int64 ordinal order)).seq
    (gives_text role)).seq (gives_text firstName)).seq (gives_text lastName)).seq
    (gives_text birthDate)).seq (gives_text phoneNumber)).seq (gives_text email)
  have second := ((((((first.seq secret).seq (gives_text gender)).seq salary).seq
    (gives_text biography)).seq (gives_text startYear)).seq (gives_text endYear)).seq
    (gives_int64 workYears years)
  have all := ((second.seq token).seq (gives_time createdAt)).seq (gives_time updatedAt)
  cases password <;> cases refreshToken <;> exact all

theorem reads {a : Admin} (ordinal : IsInt64 a.ordinal) (workYears : IsInt64 a.workYears)
    (finite : a.salary.isFinite = true) (readsBack : a.salary.ReadsBack)
    (others : List (String × Json)) (password refreshToken : Except DecodeError String)
    (distinct : ((a.toJson.members ++ others).map Prod.fst).Nodup)
    (secret : ∀ all ∈ [a.toJson.members ++ others, respelledMembers (a.toJson.members ++ others)],
      (field "password" text).Gives (member? all) password)
    (token : ∀ all ∈ [a.toJson.members ++ others, respelledMembers (a.toJson.members ++ others)],
      (field "refresh_token" text).Gives (member? all) refreshToken) :
    Record.Reads (a.toJson.members ++ others)
      (do return a.withCredentials (← password) (← refreshToken)) := by
  obtain ⟨value, spelling⟩ := real32_ofReal32 finite readsBack
  have found := member?_append_left distinct
  have plain : ∀ m ∈ a.toJson.members, m.1 ≠ "salary" → respelled m.2 = m.2 := by
    simp [toJson, Json.members, respelled]
  refine Record.reads_of_gives distinct ?_ ?_
  · exact gives ordinal workYears (fun m member _ => found m member) (gives_field rfl value)
      (secret _ (by simp)) (token _ (by simp))
  · refine gives ordinal workYears (fun m member apart => ?_) (gives_field rfl spelling)
      (secret _ (by simp)) (token _ (by simp))
    rw [Record.member?_respelledMembers, found m member, Option.map_some, plain m member apart]

theorem hidesCredentials {a : Admin} (ordinal : IsInt64 a.ordinal) (workYears : IsInt64 a.workYears)
    (finite : a.salary.isFinite = true) (readsBack : a.salary.ReadsBack) :
    HidesCredentials withCredentials a where
  independent _ _ := rfl
  absent := by simp [Record.toJson, toJson, Json.members]
  refused := by
    refine reads ordinal workYears finite readsBack [] (.error (.missingField "password"))
      (.error (.missingField "refresh_token")) (Record.distinct a) ?_ ?_
    · simpa using ⟨gives_field_of_none rfl, gives_field_of_none rfl⟩
    · simpa using ⟨gives_field_of_none rfl, gives_field_of_none rfl⟩
  restored password refreshToken := by
    have distinct :
        ((a.toJson.members ++ credentials password refreshToken).map Prod.fst).Nodup := by
      simp [toJson, Json.members, credentials]
    refine reads ordinal workYears finite readsBack (credentials password refreshToken)
      (.ok password) (.ok refreshToken) distinct ?_ ?_
    · simpa using ⟨gives_text rfl, gives_text rfl⟩
    · simpa using ⟨gives_text rfl, gives_text rfl⟩

end Admin

/-! ## All forms -/

theorem roundTrips_filter (filter : Filter) : Filter.ofJson filter.toJson = .ok filter ∧
    (ofText? (compactText filter.toJson)).map Filter.ofJson = some (.ok filter) := by
  have read : Filter.ofJson filter.toJson = .ok filter := by
    cases filter with
    | byId id => rfl
    | byCreatedAt t =>
        have time := time_text t
        simp [Filter.ofJson, Filter.toJson, tagged, Filter.ofJson.carried, time, bind, Except.bind]
  have distinct : Distinct filter.toJson := by
    cases filter <;> simp [Filter.toJson, Distinct, DistinctMembers]
  have plain : respelled filter.toJson = filter.toJson := by
    cases filter <;> rfl
  refine ⟨read, ?_⟩
  rw [ofText?_compactText distinct, plain, Option.map_some, read]

/-- What the serialised forms say of the values they were made of. -/
structure SerialisedForms (u : User) (a : Admin) : Prop where
  user : HidesCredentials User.withCredentials u
  admin : HidesCredentials Admin.withCredentials a
  contact (contact : AdminContact) : RoundTrips contact
  filter (filter : Filter) : Filter.ofJson filter.toJson = .ok filter ∧
    (ofText? (compactText filter.toJson)).map Filter.ofJson = some (.ok filter)
  pagination (page : Pagination) : RoundTrips page
  database (config : DatabaseConfig) : RoundTrips config
  deadline (config : DeadlineConfig) : RoundTrips config
  /-- Unknown members of an account do not count either, whatever its salary. -/
  unknown (v : User) (b : Admin) : Record.IgnoresUnknown v ∧ Record.IgnoresUnknown b

theorem serialised_forms {u : User} {a : Admin} (userOrdinal : IsInt64 u.ordinal)
    (adminOrdinal : IsInt64 a.ordinal) (workYears : IsInt64 a.workYears)
    (finite : a.salary.isFinite = true) (readsBack : a.salary.ReadsBack) : SerialisedForms u a where
  user := User.hidesCredentials userOrdinal
  admin := Admin.hidesCredentials adminOrdinal workYears finite readsBack
  contact := roundTrips_contact
  filter := roundTrips_filter
  pagination := roundTrips_pagination
  database := roundTrips_database
  deadline := roundTrips_deadline
  unknown v b := ⟨Record.ignoresUnknown v, Record.ignoresUnknown b⟩

/-- An administrator with a salary, the credentials before everything else and an unknown member
after it. -/
theorem serialised_forms_of_salary :
    let a : Admin := { salary := ⟨0x44BB9000⟩, workYears := -3 }
    Admin.ofJson a.toJson = .error (.missingField "password") ∧
      Admin.ofJson
          (.object (credentials "p" "r" ++ a.toJson.members ++ [("team", .array [.null])])) =
        .ok { a with password := "p", refreshToken := "r" } := by
  intro a
  have shortest : a.salary.decimal? .even = some ⟨false, 15005, -1⟩ := by decide +kernel
  have readsBack : a.salary.ReadsBack := by
    intro d decimal
    cases shortest.symm.trans decimal
    decide +kernel
  obtain ⟨-, admin, -⟩ := serialised_forms (u := {}) (a := a) (by decide) (by decide) (by decide)
    (by decide +kernel) readsBack
  have alone := admin.refused.value [] a.toJson.members (by simp [Record.Unknown])
    (by rw [List.append_nil]; rfl)
  have among := (admin.restored "p" "r").value [("team", .array [.null])]
    (credentials "p" "r" ++ a.toJson.members ++ [("team", .array [.null])])
    (by simp only [Record.Unknown, List.mem_singleton, forall_eq]; decide)
    (List.perm_append_comm.append_right _)
  exact ⟨alone, among⟩

end AccountStore

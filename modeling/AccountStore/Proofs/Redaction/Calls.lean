import AccountStore.Proofs.Operation.Comparison
import AccountStore.Proofs.Redaction.Tables

/-!
# Redacted calls

A call with redacted data goes together with the call itself: it sends the redacted statements, and
from redacted rows it reads the redacted accounts. Checking a secret field is the exception.
-/

namespace AccountStore
open Calendar Memory

/-! ## Reading redacted rows -/

namespace Secrets

variable {k : Secrets} {row : ResultRow} {name : String}

theorem value?_resultRow : (k.resultRow row).value? name =
    (row.value? name).map fun v => if k.hidesName name then v.redacted else v := by
  have same : (fun cell : String × Value => cell.1 == name) ∘ (fun cell : String × Value =>
      (cell.1, if k.hidesName cell.1 then cell.2.redacted else cell.2)) =
        fun cell => cell.1 == name := rfl
  simp only [ResultRow.value?, resultRow, List.find?_map, same]
  cases found : row.find? fun cell => cell.1 == name with
  | none => rfl
  | some cell =>
      obtain rfl : cell.1 = name := by simpa using List.find?_some found
      rfl

theorem value?_resultRow_cases : (k.resultRow row).value? name = row.value? name ∨
    ∃ s, row.value? name = some (.text (some s)) ∧
      (k.resultRow row).value? name = some (.text (some "")) := by
  rw [value?_resultRow]
  cases row.value? name with
  | none => exact Or.inl rfl
  | some v =>
      cases k.hidesName name with
      | false => exact Or.inl rfl
      | true =>
          cases v with
          | text s =>
              cases s with
              | none => exact Or.inl rfl
              | some s => exact Or.inr ⟨s, rfl, rfl⟩
          | bigint | bigunsigned | int | bool | float | double | timestamp => exact Or.inl rfl

@[simp] theorem bigint?_resultRow : (k.resultRow row).bigint? name = row.bigint? name := by
  unfold ResultRow.bigint?
  rcases value?_resultRow_cases with same | ⟨s, before, after⟩
  · rw [same]
  · rw [before, after]

@[simp] theorem bool?_resultRow : (k.resultRow row).bool? name = row.bool? name := by
  unfold ResultRow.bool?
  rcases value?_resultRow_cases with same | ⟨s, before, after⟩
  · rw [same]
  · rw [before, after]

@[simp] theorem float?_resultRow : (k.resultRow row).float? name = row.float? name := by
  unfold ResultRow.float?
  rcases value?_resultRow_cases with same | ⟨s, before, after⟩
  · rw [same]
  · rw [before, after]

@[simp] theorem time?_resultRow : (k.resultRow row).time? name = row.time? name := by
  unfold ResultRow.time?
  rcases value?_resultRow_cases with same | ⟨s, before, after⟩
  · rw [same]
  · rw [before, after]

theorem text?_of_seen (seen : k.hidesName name = false) :
    (k.resultRow row).text? name = row.text? name := by
  simp [ResultRow.text?, value?_resultRow, seen]

theorem text?_of_hidden (hidden : k.hidesName name = true) :
    (k.resultRow row).text? name = (row.text? name).map fun _ => "" := by
  simp only [ResultRow.text?, value?_resultRow, hidden, if_true]
  cases row.value? name with
  | none => rfl
  | some v =>
      cases v with
      | text s => cases s <;> rfl
      | bigint | bigunsigned | int | bool | float | double | timestamp => rfl

@[simp] theorem text?_password :
    (k.resultRow row).text? "password" = (row.text? "password").map fun _ => "" :=
  text?_of_hidden (by cases k <;> rfl)

theorem text?_of_ne (password : name ≠ "password") (token : name ≠ "refresh_token") :
    (k.resultRow row).text? name = row.text? name := by
  refine text?_of_seen ?_
  cases k <;> simp [hidesName, password, token]

@[simp] theorem text?_refreshToken :
    (k.resultRow row).text? "refresh_token" = (row.text? "refresh_token").map k.token := by
  cases k with
  | passwords =>
      rw [text?_of_seen rfl]
      exact Option.map_id'.symm
  | credentials => exact text?_of_hidden rfl

end Secrets

/-! ## Redacted accounts -/

/-- Accounts that can be redacted. -/
class Account.Redacted (α : Type) [Account α] where
  redact : Secrets → α → α
  cell_redact (k : Secrets) (a : α) (c : Column) :
    Account.cell (redact k a) c = k.value c (Account.cell a c)
  id_redact (k : Secrets) (a : α) : Account.id (redact k a) = Account.id a
  guard_redact (k : Secrets) (a : α) : Account.guard (redact k a) = Account.guard a
  violations_redact (k : Secrets) (a : α) : Account.violations (redact k a) = Account.violations a
  assignIdentity_redact (k : Secrets) (stamp : Stamp) (a : α) :
    Account.assignIdentity stamp (redact k a) = redact k (Account.assignIdentity stamp a)
  touch_redact (k : Secrets) (now : Instant) (a : α) :
    Account.touch now (redact k a) = redact k (Account.touch now a)
  toJson_redact (k : Secrets) (a : α) : Account.toJson (redact k a) = Account.toJson a
  ofRow_redact (k : Secrets) (row : ResultRow) :
    Account.ofRow? (k.resultRow row) = (Account.ofRow? row : Option α).map (redact k)

def User.redact (k : Secrets) (u : User) : User :=
  { u with password := "", refreshToken := k.token u.refreshToken }

def Admin.redact (k : Secrets) (a : Admin) : Admin :=
  { a with password := "", refreshToken := k.token a.refreshToken }

/-! Both decoders read one column after another, so the two sides are compared read by read. -/

theorem bind_eq_map_bind {x : Option γ} {f : γ → Option β} {g : γ → Option δ} {r : β → δ}
    (next : ∀ c, g c = (f c).map r) : x.bind g = (x.bind f).map r := by
  cases x with
  | none => rfl
  | some c => exact next c

theorem map_bind_eq_map_bind {x : Option γ} {blank : γ → γ} {f : γ → Option β}
    {g : γ → Option δ} {r : β → δ} (next : ∀ c, g (blank c) = (f c).map r) :
    (x.map blank).bind g = (x.bind f).map r := by
  rw [Option.bind_map]
  exact bind_eq_map_bind next

theorem User.ofRow?_resultRow (k : Secrets) (row : ResultRow) :
    User.ofRow? (k.resultRow row) = (User.ofRow? row).map (User.redact k) := by
  unfold User.ofRow?
  simp (disch := decide) only [Secrets.text?_of_ne, Secrets.text?_password,
    Secrets.text?_refreshToken, Secrets.bigint?_resultRow, Secrets.time?_resultRow]
  repeat first
    | refine map_bind_eq_map_bind fun _ => ?_
    | refine bind_eq_map_bind fun _ => ?_
  rfl

theorem Admin.ofRow?_resultRow (k : Secrets) (row : ResultRow) :
    Admin.ofRow? (k.resultRow row) = (Admin.ofRow? row).map (Admin.redact k) := by
  unfold Admin.ofRow?
  simp (disch := decide) only [Secrets.text?_of_ne, Secrets.text?_password,
    Secrets.text?_refreshToken, Secrets.bigint?_resultRow, Secrets.float?_resultRow,
    Secrets.time?_resultRow]
  repeat first
    | refine map_bind_eq_map_bind fun _ => ?_
    | refine bind_eq_map_bind fun _ => ?_
  rfl

instance : Account.Redacted User where
  redact := User.redact
  cell_redact k u c := by cases k <;> cases c <;> rfl
  id_redact _ _ := rfl
  guard_redact _ _ := rfl
  violations_redact _ _ := rfl
  assignIdentity_redact _ _ _ := rfl
  touch_redact _ _ _ := rfl
  toJson_redact _ _ := rfl
  ofRow_redact := User.ofRow?_resultRow

instance : Account.Redacted Admin where
  redact := Admin.redact
  cell_redact k a c := by cases k <;> cases c <;> rfl
  id_redact _ _ := rfl
  guard_redact _ _ := rfl
  violations_redact _ _ := rfl
  assignIdentity_redact _ _ _ := rfl
  touch_redact _ _ _ := rfl
  toJson_redact _ _ := rfl
  ofRow_redact := Admin.ofRow?_resultRow

/-! ## Calls -/

section Calls

variable {α : Type} [Account α]

/-- Checks whether an account holds a value in a secret field. -/
def StoreCall.ChecksSecret (k : Secrets) : StoreCall α → Prop
  | .checkField field _ => k.hides field.column = true
  | _ => False

def ServiceCall.ChecksSecret (k : Secrets) : ServiceCall α → Prop
  | .checkField name _ =>
      ∃ field, Field.ofName? (Account.table α) name = some field ∧ k.hides field.column = true
  | _ => False

def Call.ChecksSecret (k : Secrets) : Call α → Prop
  | .store call => call.ChecksSecret k
  | .service call => call.ChecksSecret k

end Calls

namespace Secrets

open Account.Redacted (redact)

section Calls

variable {α : Type} [Account α] [Account.Redacted α]

def answer (k : Secrets) : Answer α → Answer α
  | .account a => .account (redact k a)
  | .accounts list => .accounts (list.map (redact k))
  | answer => answer

def storeCall (k : Secrets) : StoreCall α → StoreCall α
  | .create a => .create (redact k a)
  | .createAndFetch a => .createAndFetch (redact k a)
  | .update a => .update (redact k a)
  | .changePassword contact _ => .changePassword contact ""
  | .updateRefreshToken id token => .updateRefreshToken id (k.token token)
  | call => call

def serviceCall (k : Secrets) : ServiceCall α → ServiceCall α
  | .create a => .create (redact k a)
  | .update a => .update (redact k a)
  | .changePassword contact _ => .changePassword contact ""
  | .updateRefreshToken id token => .updateRefreshToken id (k.token token)
  | call => call

def call (k : Secrets) : Call α → Call α
  | .store call => .store (k.storeCall call)
  | .service call => .service (k.serviceCall call)

end Calls

/-! ## Going together -/

/-- Redacted statements match those that look at no secret, redacted rows match all. -/
def matching (k : Secrets) : Matching :=
  .sameErrors (fun s t => k.AvoidsIn s ∧ t = k.statement s)
    fun rows rows' => rows' = rows.map k.resultRow

section Together

open Program

variable {k : Secrets} {s : Statement} {β : Type} {R : β → β → Prop}

theorem together_query (avoids : k.AvoidsIn s) {p q : List ResultRow → Program β}
    (next : ∀ rows, (p rows).Together k.matching R (q (rows.map k.resultRow))) :
    (Program.query s (reply p)).Together k.matching R (.query (k.statement s) (reply q)) := by
  refine .query ⟨avoids, rfl⟩ (Together.reply fun rows rows' same => ?_)
  rw [show rows' = rows.map k.resultRow from same]
  exact next rows

theorem together_execute (avoids : k.AvoidsIn s) {p q : Nat → Program β}
    (next : ∀ n, (p n).Together k.matching R (q n)) :
    (Program.execute s (reply p)).Together k.matching R (.execute (k.statement s) (reply q)) := by
  refine .execute ⟨avoids, rfl⟩ (Together.reply fun n n' same => ?_)
  rw [show n = n' from same]
  exact next n'

theorem rel_map (f : γ → δ) (x : Option γ) : Option.Rel (fun a b => b = f a) x (x.map f) := by
  cases x with
  | none => exact .none
  | some a => exact .some rfl

theorem avoids_liveById (k : Secrets) (id : String) : k.Avoids (Statement.liveById id) := by
  intro c v member
  rcases List.mem_cons.1 member with eq | rest
  · cases eq
    exact hides_of_ne (by decide) (by decide)
  · simp at rest

theorem avoids_contact (k : Secrets) (predicate : ContactPredicate) :
    k.Avoids [.contact predicate, .live] := by
  intro c v member
  simp at member

theorem avoids_list (k : Secrets) (t : Table) (filters : List Filter) (page : Pagination) :
    k.AvoidsIn (.list t filters page) := by
  unfold AvoidsIn
  rw [Statement.meaning_list]
  intro c v member
  rcases List.mem_cons.1 member with eq | rest
  · cases eq
  · obtain ⟨filter, _, eq⟩ := List.mem_map.1 rest
    cases filter <;> cases eq <;> exact hides_of_ne (by decide) (by decide)

theorem missing_map (rows : List ResultRow) :
    Store.missing (rows.map k.resultRow) = Store.missing rows := by
  unfold Store.missing
  cases rows with
  | nil => rfl
  | cons row rest =>
      have marker : (k.resultRow row).isDeleted = row.isDeleted := by simp [ResultRow.isDeleted]
      simp only [List.map_cons, List.head?_cons, marker]

theorem together_modify (t : Table) (id : String) (avoids : k.AvoidsIn s) :
    (Store.modify t id s).Together k.matching Eq (Store.modify t id (k.statement s)) := by
  rw [Store.modify_eq, Store.modify_eq]
  refine together_execute avoids fun n => ?_
  by_cases none : n = 0
  · have marker : k.AvoidsIn (.deletionMarker t id) := by
      intro c v member
      cases List.mem_singleton.1 member
      exact hides_of_ne nofun nofun
    rw [if_pos none]
    refine together_query marker fun rows => ?_
    rw [missing_map]
    exact .fail _
  · rw [if_neg none]
    exact .pure rfl

theorem counted?_map (rows : List ResultRow) :
    Store.counted? (rows.map k.resultRow) = Store.counted? rows := by
  unfold Store.counted?
  cases rows with
  | nil => rfl
  | cons row rest => simp only [List.map_cons, List.head?_cons, bigint?_resultRow]

theorem found?_map (rows : List ResultRow) :
    Store.found? (rows.map k.resultRow) = Store.found? rows := by
  unfold Store.found?
  cases rows with
  | nil => rfl
  | cons row rest => simp only [List.map_cons, List.head?_cons, bool?_resultRow]

theorem together_checkField (t : Table) (field : Field t) (value : String)
    (seen : k.hides field.column = false) :
    (Store.checkField t field value).Together k.matching Eq (Store.checkField t field value) := by
  have avoids : k.AvoidsIn (.count t field.column value) := by
    intro c v member
    rcases List.mem_cons.1 member with eq | rest
    · cases eq
      exact seen
    · simp at rest
  rw [Store.checkField_eq_counted]
  refine together_query avoids fun rows => ?_
  rw [counted?_map]
  exact (ended_ofOption _ _).together

theorem together_ifExists (k : Secrets) (t : Table) (predicate : ContactPredicate) :
    (Store.ifExists t predicate).Together k.matching Eq (Store.ifExists t predicate) := by
  have avoids : k.AvoidsIn (.found t predicate) := avoids_contact k predicate
  rw [Store.ifExists_eq_found]
  refine together_query avoids fun rows => ?_
  rw [found?_map]
  exact (ended_ofOption _ _).together

theorem together_changePassword (k : Secrets) (t : Table) (predicate : ContactPredicate)
    (password : String) :
    (Store.changePassword t predicate password).Together k.matching Eq
      (Store.changePassword t predicate "") := by
  have avoids : k.AvoidsIn (.setPassword t predicate password) := avoids_contact k predicate
  rw [Store.changePassword_eq, Store.changePassword_eq]
  exact together_execute avoids fun _ => .pure rfl

theorem together_updateRefreshToken (k : Secrets) (t : Table) (id token : String) :
    (Store.updateRefreshToken t id token).Together k.matching Eq
      (Store.updateRefreshToken t id (k.token token)) := by
  have avoids : k.AvoidsIn (.setRefreshToken t id token) := avoids_liveById k id
  rw [Store.updateRefreshToken_eq, Store.updateRefreshToken_eq]
  exact together_execute avoids fun _ => .pure rfl

section Accounts

variable {α : Type} [Account α] [Account.Redacted α]

theorem cells_redact (columns : List Column) (a : α) :
    Store.cells columns (redact k a) = (Store.cells columns a).map k.cell := by
  simp [Store.cells, cell, Account.Redacted.cell_redact]

theorem together_ofRow (e : AccountError) (rows : List ResultRow) :
    ((ofOption e rows.head?).bind (Store.ofRow (α := α))).Together k.matching
      (fun a b => b = redact k a)
      ((ofOption e (rows.map k.resultRow).head?).bind Store.ofRow) := by
  rw [List.head?_map]
  refine (Together.ofOption e (rel_map k.resultRow rows.head?)).bind fun row row' same => ?_
  rw [same, Store.ofRow, Store.ofRow, Account.Redacted.ofRow_redact]
  exact Together.ofOption _ (rel_map _ _)

theorem mapM_ofRow? (k : Secrets) (rows : List ResultRow) :
    (rows.map k.resultRow).mapM (Account.ofRow? (α := α)) =
      (rows.mapM Account.ofRow?).map (List.map (redact k)) := by
  induction rows with
  | nil => rfl
  | cons row rest ih =>
      rw [List.map_cons, List.mapM_cons, List.mapM_cons, ih, Account.Redacted.ofRow_redact]
      refine map_bind_eq_map_bind fun a => map_bind_eq_map_bind fun list => rfl

theorem together_createAndFetch (k : Secrets) (a : α) :
    (Store.createAndFetch a).Together k.matching (fun a b => b = redact k a)
      (Store.createAndFetch (redact k a)) := by
  have avoids : k.AvoidsIn (.insert (Account.table α)
      (Store.cells (Account.table α).insertable a) true) := trivial
  rw [Store.createAndFetch_eq, Store.createAndFetch_eq, cells_redact]
  exact together_query avoids fun rows => together_ofRow _ rows

theorem together_update (k : Secrets) (a : α) :
    (Store.update a).Together k.matching Eq (Store.update (redact k a)) := by
  have assigned : k.statement (.update (Account.table α)
      ((Store.cells (Account.table α).updatable a).map fun c => (c.1, .value c.2))
      (Statement.gate (Account.id a))) = .update (Account.table α)
        ((Store.cells (Account.table α).updatable (redact k a)).map fun c => (c.1, .value c.2))
        (Statement.gate (Account.id (redact k a))) := by
    simp [statement, cells_redact, assignment, cell, Account.Redacted.id_redact]
  rw [Store.update_eq, Store.update_eq, ← assigned, Account.Redacted.id_redact]
  exact together_modify _ _ (avoids_liveById k _)

/-- A call on the store goes together with the redacted one. -/
theorem together_storeCall (k : Secrets) (call : StoreCall α) (seen : ¬ call.ChecksSecret k) :
    call.program.Together k.matching (fun a b => b = k.answer a) (k.storeCall call).program := by
  cases call with
  | create a =>
      have avoids : k.AvoidsIn (.insert (Account.table α)
          (Store.cells (Account.table α).insertable a) false) := trivial
      have create : (Store.create a).Together k.matching Eq (Store.create (redact k a)) := by
        rw [Store.create_eq, Store.create_eq, cells_redact, Account.Redacted.id_redact]
        exact together_execute avoids fun _ => .pure rfl
      exact create.map fun id id' same => by rw [same]; rfl
  | createAndFetch a =>
      exact (together_createAndFetch k a).map fun a b same => by rw [same]; rfl
  | get id =>
      have get : (Store.get id : Program α).Together k.matching (fun a b => b = redact k a)
          (Store.get id) := by
        rw [Store.get_eq]
        exact together_query (avoids_list k _ _ _) fun rows => together_ofRow _ rows
      exact get.map fun a b same => by rw [same]; rfl
  | list page filters =>
      have list : (Store.list page filters : Program (List α)).Together k.matching
          (fun a b => b = a.map (redact k)) (Store.list page filters) := by
        rw [Store.list_eq]
        refine together_query (avoids_list k _ _ _) fun rows => ?_
        rw [mapM_ofRow?]
        exact .ofOption _ (rel_map _ _)
      exact list.map fun a b same => by rw [same]; rfl
  | update a => exact (together_update k a).map fun _ _ _ => rfl
  | delete id =>
      have avoids : k.AvoidsIn (.softDelete (Account.table α) id) := avoids_liveById k id
      exact (together_modify _ id avoids).map fun _ _ _ => rfl
  | checkField field value =>
      have visible : k.hides field.column = false := Bool.eq_false_iff.2 seen
      exact (together_checkField _ field value visible).map fun a b same => by rw [same]; rfl
  | ifExists lookup =>
      exact (together_ifExists k _ _).map fun a b same => by rw [same]; rfl
  | changePassword contact password =>
      exact (together_changePassword k _ _ password).map fun a b same => by rw [same]; rfl
  | updateRefreshToken id token =>
      exact (together_updateRefreshToken k _ id token).map fun a b same => by rw [same]; rfl

/-! ### Service calls -/

theorem together_checked (a : α) {γ δ : Type} {S : γ → δ → Prop} {p : Program γ} {q : Program δ}
    (together : p.Together k.matching S q) :
    (Service.checked a p).Together k.matching S (Service.checked (redact k a) q) := by
  unfold Service.checked
  rw [Account.Redacted.violations_redact]
  cases Account.violations a with
  | nil => exact together
  | cons first rest => exact .fail _

theorem together_serviceCreate (k : Secrets) (stamp : Stamp) (a : α) :
    (Service.create stamp a).Together k.matching (fun a b => b = redact k a)
      (Service.create stamp (redact k a)) := by
  have created := together_createAndFetch k (Account.assignIdentity stamp a)
  unfold Service.create
  rw [Account.Redacted.assignIdentity_redact]
  refine together_checked _ (.pause ?_)
  rw [Account.Redacted.guard_redact]
  refine (together_ifExists k _ _).bind fun taken taken' same => ?_
  rw [← same]
  cases taken with
  | true => exact .fail _
  | false => exact .pause created

theorem together_serviceUpdate (k : Secrets) (stamp : Stamp) (a : α) :
    (Service.update stamp a).Together k.matching Eq (Service.update stamp (redact k a)) := by
  unfold Service.update
  rw [Account.Redacted.touch_redact]
  exact together_checked _ (.pause (together_update k _))

/-- A call on the service goes together with the redacted one. -/
theorem together_serviceCall (k : Secrets) (stamp : Stamp) (call : ServiceCall α)
    (seen : ¬ call.ChecksSecret k) :
    (call.program stamp).Together k.matching (fun a b => b = k.answer a)
      ((k.serviceCall call).program stamp) := by
  cases call with
  | create a => exact (together_serviceCreate k stamp a).map fun a b same => by rw [same]; rfl
  | get id => exact .pause (together_storeCall k (.get id) not_false)
  | list page filters => exact .pause (together_storeCall k (.list page filters) not_false)
  | update a => exact (together_serviceUpdate k stamp a).map fun _ _ _ => rfl
  | delete id => exact .pause (together_storeCall k (.delete id) not_false)
  | checkField name value =>
      refine Together.map (R := Eq) ?_ fun a b same => by rw [same]; rfl
      unfold Service.checkField
      cases found : Field.ofName? (Account.table α) name with
      | none => exact .fail _
      | some field =>
          have visible : k.hides field.column = false :=
            Bool.eq_false_iff.2 fun hidden => seen ⟨field, found, hidden⟩
          exact .pause (together_checkField _ field value visible)
  | ifExists lookup => exact .pause (together_storeCall k (.ifExists lookup) not_false)
  | changePassword contact password =>
      exact .pause (together_storeCall k (.changePassword contact password) not_false)
  | updateRefreshToken id token =>
      exact .pause (together_storeCall k (.updateRefreshToken id token) not_false)

theorem together_call (k : Secrets) (stamp : Stamp) (call : Call α)
    (seen : ¬ call.ChecksSecret k) :
    (call.program stamp).Together k.matching (fun a b => b = k.answer a)
      ((k.call call).program stamp) := by
  cases call with
  | store call => exact together_storeCall k call seen
  | service call => exact together_serviceCall k stamp call seen

theorem operation_call (k : Secrets) (call : Call α) : (k.call call).operation = call.operation := by
  cases call with
  | store call => rfl
  | service call => cases call <;> rfl

theorem timing_call (k : Secrets) (timing : Timing) (call : Call α) :
    (k.call call).timing timing = call.timing timing := by
  cases call <;> rfl

end Accounts
end Together
end Secrets
end AccountStore

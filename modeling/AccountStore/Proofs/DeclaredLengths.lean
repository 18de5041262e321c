import AccountStore.Migration
import AccountStore.Proofs.Account.Revision

/-!
# Declared lengths

The schema declares how long the texts of some columns may be. Validation keeps to that in the
identifier and the phone number, and has no rule for the other columns: a valid account fits its
table exactly if their texts do, and each of them can be any text (`declared_lengths`). So there are
valid accounts that do not fit (`valid_not_fitting`).
-/

namespace AccountStore
open Account

/-- The text that a value is. -/
def Value.text? : Value → Option String
  | .text v => v
  | _ => none

/-- The value is no longer than its column is declared to hold. -/
def Value.Fits (t : Table) (c : Column) (v : Value) : Prop :=
  ∀ s ∈ v.text?, ∀ n ∈ t.maxLength? c, s.length ≤ n

instance (t : Table) (c : Column) (v : Value) : Decidable (v.Fits t c) :=
  inferInstanceAs (Decidable (∀ s ∈ v.text?, ∀ n ∈ t.maxLength? c, s.length ≤ n))

/-- Every value that is written fits its column. -/
def FitTable (t : Table) (cells : List (Column × Value)) : Prop :=
  ∀ cell ∈ cells, cell.2.Fits t cell.1

instance (t : Table) (cells : List (Column × Value)) : Decidable (FitTable t cells) :=
  inferInstanceAs (Decidable (∀ cell ∈ cells, cell.2.Fits t cell.1))

/-- Whatever is valid once it has an identity fits its table, in a creation and in an update. -/
def Account.ValidFits (α : Type) [Account α] : Prop :=
  ∀ (stamp : Stamp) (a : α), violations (assignIdentity stamp a) = [] →
    ∀ columns ∈ [(table α).insertable, (table α).updatable],
      FitTable (table α) (Store.cells columns (assignIdentity stamp a))

/-- The columns whose declared length is also a rule. -/
def Table.lengthRuled : List Column := [.id, .phoneNumber]

/-- The columns with a declared length that no rule knows. -/
def Table.lengthUnruled (t : Table) : List Column :=
  t.projection.filter fun c => c ∉ lengthRuled ∧ (t.maxLength? c).isSome

class Account.Rewordable (α : Type) [Account α] where
  /-- The account with another text in a column. -/
  reword : Column → String → α → α
  differAtMost_reword (c : Column) (s : String) (a : α) : DifferAtMost [c] a (reword c s a)
  cell_reword {c : Column} (unruled : c ∈ (table α).lengthUnruled) {s : String} (filled : s ≠ "")
    (stamp : Stamp) (a : α) : cell (assignIdentity stamp (reword c s a)) c = .text (some s)
  violations_reword {c : Column} (unruled : c ∈ (table α).lengthUnruled) (s : String)
    (stamp : Stamp) (a : α) :
    violations (assignIdentity stamp (reword c s a)) = violations (assignIdentity stamp a)
  fits_of_ruled {a : α} (valid : violations a = []) :
    ∀ c ∈ Table.lengthRuled, (cell a c).Fits (table α) c

/-! ## The two kinds of accounts -/

theorem Violation.length_le_of_ofLength {c : Column} {least : Option Nat} {greatest : Nat}
    {s : String} (valid : ofLength c least greatest s = []) : s.length ≤ greatest := by
  unfold ofLength at valid
  split at valid
  next bounds => exact bounds.2
  next => cases valid

theorem Value.fits_text {t : Table} {c : Column} {n : Nat} (declared : t.maxLength? c = some n)
    {s : String} (short : s.length ≤ n) : (text (some s)).Fits t c := by
  intro s same m found
  cases same
  cases declared.symm.trans found
  exact short

def User.reword (u : User) : Column → String → User
  | .birthDate, s => { u with birthDate := s }
  | .gender, s => { u with gender := s }
  | _, _ => u

def Admin.reword (a : Admin) : Column → String → Admin
  | .role, s => { a with role := s }
  | .birthDate, s => { a with birthDate := s }
  | .gender, s => { a with gender := s }
  | .startWorkYear, s => { a with startWorkYear := s }
  | .endWorkYear, s => { a with endWorkYear := s }
  | _, _ => a

instance : Account.Rewordable User where
  reword c s u := u.reword c s
  differAtMost_reword c s u d _ apart := by
    cases c <;> cases d <;> first | rfl | exact absurd (List.mem_singleton_self _) apart
  cell_reword {c} unruled s filled stamp u := by
    have cases : c = .birthDate ∨ c = .gender := by
      revert unruled
      cases c <;> decide
    rcases cases with rfl | rfl
    · exact congrArg Value.text (if_neg filled)
    · rfl
  violations_reword {c} unruled s stamp u := by cases c <;> rfl
  fits_of_ruled {u} valid c ruled := by
    simp only [violations, User.violations, List.append_eq_nil_iff] at valid
    obtain ⟨⟨⟨id, -⟩, -⟩, phone⟩ := valid
    rcases List.mem_pair.1 ruled with rfl | rfl
    · exact Value.fits_text (n := 64) (by decide) (Violation.length_le_of_ofLength id)
    · exact Value.fits_text (n := 20) (by decide) (Violation.length_le_of_ofLength phone)

instance : Account.Rewordable Admin where
  reword c s a := a.reword c s
  differAtMost_reword c s a d _ apart := by
    cases c <;> cases d <;> first | rfl | exact absurd (List.mem_singleton_self _) apart
  cell_reword {c} unruled s filled stamp a := by
    have cases : c = .role ∨ c = .birthDate ∨ c = .gender ∨ c = .startWorkYear ∨
        c = .endWorkYear := by
      revert unruled
      cases c <;> decide
    rcases cases with rfl | rfl | rfl | rfl | rfl
    · exact congrArg (fun s => Value.text (some s)) (if_neg filled)
    · exact congrArg Value.text (if_neg filled)
    · rfl
    · exact congrArg Value.text (if_neg filled)
    · exact congrArg Value.text (if_neg filled)
  violations_reword {c} unruled s stamp a := by cases c <;> rfl
  fits_of_ruled {a} valid c ruled := by
    simp only [violations, Admin.violations, List.append_eq_nil_iff] at valid
    obtain ⟨⟨⟨⟨⟨⟨⟨id, -⟩, -⟩, phone⟩, -⟩, -⟩, -⟩, -⟩ := valid
    rcases List.mem_pair.1 ruled with rfl | rfl
    · exact Value.fits_text (n := 64) (by decide) (Violation.length_le_of_ofLength id)
    · exact Value.fits_text (n := 20) (by decide) (Violation.length_le_of_ofLength phone)

/-! ## What validation says of declared lengths -/

section

open Rewordable

variable {α : Type} [Account α] [Rewordable α]

/-- A valid account fits its table exactly if the texts do that have a declared length and no rule,
and each of these can be any text. -/
theorem declared_lengths (stamp : Stamp) {a : α}
    (valid : violations (assignIdentity stamp a) = []) :
    (∀ columns ∈ [(table α).insertable, (table α).updatable],
      FitTable (table α) (Store.cells columns (assignIdentity stamp a)) ↔
        ∀ c ∈ columns, c ∈ (table α).lengthUnruled →
          (cell (assignIdentity stamp a) c).Fits (table α) c) ∧
      ∀ c ∈ (table α).lengthUnruled, ∀ s ≠ "", ∃ b : α, DifferAtMost [c] a b ∧
        violations (assignIdentity stamp b) = [] ∧
        cell (assignIdentity stamp b) c = .text (some s) := by
  refine ⟨fun columns written => ?_, fun c unruled s filled => ⟨reword c s a,
    differAtMost_reword c s a, (violations_reword unruled s stamp a).trans valid,
    cell_reword unruled filled stamp a⟩⟩
  simp only [FitTable, Store.cells, List.forall_mem_map]
  refine forall₂_congr fun c member => ⟨fun fits _ => fits, fun fits => ?_⟩
  by_cases ruled : c ∈ Table.lengthRuled
  · exact fits_of_ruled valid c ruled
  · cases declared : (table α).maxLength? c with
    | none => simp [Value.Fits, declared]
    | some n =>
        have read : c ∈ (table α).projection := by
          rcases List.mem_pair.1 written with rfl | rfl
          · exact List.mem_of_mem_filter member
          · exact List.mem_of_mem_filter member
        exact fits (List.mem_filter.2 ⟨read, by simp [ruled, declared]⟩)

end

/-- An administrator that fits its table still does not with a longer role, which is as valid. -/
theorem declared_lengths_of_role :
    let stamp : Stamp := ⟨"", .epoch⟩
    let a : Admin := { id := "a", phoneNumber := "+1", email := "a@example.com" }
    violations (assignIdentity stamp a) = [] ∧
      FitTable .admins (Store.cells Table.admins.updatable (assignIdentity stamp a)) ∧
      ∃ b : Admin, DifferAtMost [.role] a b ∧ violations (assignIdentity stamp b) = [] ∧
        ¬FitTable .admins (Store.cells Table.admins.updatable (assignIdentity stamp b)) := by
  intro stamp a
  have valid : violations (assignIdentity stamp a) = [] := by decide +kernel
  obtain ⟨fits_iff, unruled⟩ := declared_lengths stamp valid
  have fits := (fits_iff Table.admins.updatable (by decide)).2 (by decide +kernel)
  obtain ⟨b, same, validToo, role⟩ :=
    unruled .role (by decide) "an administrator of administrators" (by decide)
  refine ⟨valid, fits, b, same, validToo, fun fitsToo => ?_⟩
  have short := fitsToo (.role, cell (assignIdentity stamp b) .role) (List.mem_map.2
    ⟨.role, by decide, rfl⟩)
  rw [role] at short
  exact absurd short (by decide)

/-- There are users and administrators that are valid and do not fit their tables. -/
theorem valid_not_fitting : ¬ValidFits User ∧ ¬ValidFits Admin := by
  constructor
  · intro fits
    have fitting := fits ⟨"", .epoch⟩
      { id := "u", phoneNumber := "+1", gender := "01234567890123456" }
      (by decide) Table.users.insertable (by decide)
    exact absurd fitting (by decide)
  · intro fits
    have fitting := fits ⟨"", .epoch⟩
      { id := "a", phoneNumber := "+1", email := "a@example.com", gender := "01234567890123456" }
      (by decide +kernel) Table.admins.insertable (by decide)
    exact absurd fitting (by decide)

end AccountStore

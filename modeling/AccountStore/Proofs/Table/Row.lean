import AccountStore.Memory.Table
import AccountStore.Statement.Build
import Mathlib.Logic.Function.Basic

/-!
# Rows

What the columns of a row may hold, which rows a statement sees and what an assignment makes of a
row. `Row.Evolves` is all that ever happens to a row once it is there: its identifier, its ordinal
and its time of creation stay, and nothing changes after it was deleted.
-/

namespace AccountStore
open Calendar

/-! ## What columns hold -/

theorem Number.Real32.dropZeroSign_dropZeroSign (x : Real32) :
    x.dropZeroSign.dropZeroSign = x.dropZeroSign := by
  by_cases zero : x.bits = 0x80000000
  · have dropped : x.dropZeroSign = ⟨0⟩ := if_pos zero
    rw [dropped]
    rfl
  · have same : x.dropZeroSign = x := if_neg zero
    rw [same, same]

namespace Column

/-- What a column may hold. A missing text or time is NULL, never the empty text or the epoch. -/
def Holds (c : Column) (v : Value) : Prop :=
  match c with
  | ordinal | workYears => ∃ n, v = .bigint (some n)
  | salary => ∃ x : Number.Real32, v = .float (some x.dropZeroSign)
  | birthDate | startWorkYear | endWorkYear => ∃ s, v = .ofNullableText s
  | createdAt => ∃ t, v = .timestamp (some t)
  | updatedAt => ∃ t, v = .ofNullableTime t
  | deletedAt => ∃ t, v = .timestamp t
  | _ => ∃ s, v = .text (some s)

theorem exists_text_of_liveUnique {t : Table} {c : Column} {v : Value} (unique : c ∈ t.liveUnique)
    (holds : c.Holds v) : ∃ s, v = .text (some s) := by
  cases t <;> simp only [Table.liveUnique, List.mem_cons, List.not_mem_nil, or_false] at unique
  · subst unique
    exact holds
  · rcases unique with rfl | rfl <;> exact holds

theorem Holds.stored_eq {c : Column} {v : Value} (holds : c.Holds v) : v.stored = v := by
  cases c
  case salary =>
    obtain ⟨x, rfl⟩ := holds
    rw [Value.stored, Option.map_some, x.dropZeroSign_dropZeroSign]
  all_goals
    obtain ⟨_, rfl⟩ := holds
    rfl

end Column

theorem Value.same_text {v : Value} {s : String} :
    v.same (.text (some s)) = true ↔ v = .text (some s) := by
  constructor
  · intro h
    simp only [Value.same, Bool.and_eq_true, beq_iff_eq] at h
    exact h.2
  · rintro rfl
    simp [Value.same, Value.isNull]

theorem Value.same_eq_false_of_text {v w : Value} (text : ∃ s, v = .text (some s)) :
    v.same w = false ↔ v ≠ w := by
  obtain ⟨s, rfl⟩ := text
  simp [Value.same, Value.isNull]

def Assigned.stored (now : Instant) : Assigned → Value
  | .value v => v.stored
  | .currentTime => .timestamp (some now)

namespace Memory
namespace Row

def Typed (t : Table) (row : Row) : Prop :=
  ∀ c ∈ t.columns, c.Holds (row c)

theorem Typed.id {t : Table} {row : Row} (typed : row.Typed t) : ∃ id, row .id = .text (some id) :=
  typed .id (by cases t <;> decide)

theorem Typed.deletedAt {t : Table} {row : Row} (typed : row.Typed t) :
    ∃ time, row .deletedAt = .timestamp time :=
  typed .deletedAt (by cases t <;> decide)

theorem Typed.unique {t : Table} {row : Row} (typed : row.Typed t) {c : Column}
    (unique : c ∈ t.liveUnique) : ∃ s, row c = .text (some s) :=
  Column.exists_text_of_liveUnique unique (typed c (by revert c; cases t <;> decide))

/-! ## Conditions -/

theorem isLive_of_satisfiesAll {conditions : List Condition} {row : Row}
    (gated : .live ∈ conditions) (h : row.satisfiesAll conditions = true) : row.isLive = true :=
  List.all_eq_true.1 h .live gated

theorem satisfiesAll_liveById {row : Row} {id : String} :
    row.satisfiesAll (Statement.liveById id) = true ↔
      row .id = .text (some id) ∧ row.isLive = true := by
  simp [satisfiesAll, Statement.liveById, satisfies, Value.same_text]

theorem satisfiesAll_byId {row : Row} {id : String} :
    row.satisfiesAll [.equals .id (.text (some id))] = true ↔ row .id = .text (some id) := by
  simp [satisfiesAll, satisfies, Value.same_text]

/-! ## Assignments -/

theorem assign_of_notMem {now : Instant} {assignments : List (Column × Assigned)} {c : Column}
    (h : ∀ a ∈ assignments, a.1 ≠ c) (row : Row) : row.assign now assignments c = row c := by
  have missing : assignments.find? (fun a => a.1 = c) = none :=
    List.find?_eq_none.2 fun a member => by simpa using h a member
  simp only [assign, missing]

theorem assign_cases (now : Instant) (assignments : List (Column × Assigned)) (row : Row)
    (c : Column) :
    (∃ a ∈ assignments, a.1 = c ∧ row.assign now assignments c = a.2.stored now) ∨
      row.assign now assignments c = row c := by
  cases found : assignments.find? (fun a => a.1 = c) with
  | none => exact Or.inr (by simp only [assign, found])
  | some a =>
      refine Or.inl ⟨a, List.mem_of_find?_eq_some found, by simpa using List.find?_some found, ?_⟩
      obtain ⟨_, v⟩ := a
      cases v <;> simp only [assign, found, Assigned.stored]

theorem assign_single (now : Instant) (c : Column) (a : Assigned) (row : Row) :
    row.assign now [(c, a)] = Function.update row c (a.stored now) := by
  funext d
  by_cases same : c = d
  · subst same
    cases a <;> simp [assign, Assigned.stored]
  · simp [assign, same, Function.update_of_ne (Ne.symm same)]

/-! ## New rows -/

/-- A row as it is inserted: live, and never updated. -/
structure New (t : Table) (row : Row) : Prop where
  typed : row.Typed t
  deletedAt : row .deletedAt = .timestamp none
  updatedAt : row .updatedAt = .timestamp none

theorem New.isLive {t : Table} {row : Row} (new : row.New t) : row.isLive = true := by
  simp [Row.isLive, new.deletedAt, Value.isNull]

@[simp] theorem ofCells_ordinal (n : Nat) (cells : List (Column × Value)) :
    ofCells n cells .ordinal = .bigint (some n) := rfl

/-! ## What happens to a row -/

/-- A row may have become another in the course of time. -/
structure Evolves (before after : Row) : Prop where
  id : after .id = before .id
  ordinal : after .ordinal = before .ordinal
  createdAt : after .createdAt = before .createdAt
  frozen : before.isLive = false → after = before

theorem Evolves.refl (row : Row) : row.Evolves row := ⟨rfl, rfl, rfl, fun _ => rfl⟩

theorem Evolves.trans {a b c : Row} (ab : a.Evolves b) (bc : b.Evolves c) : a.Evolves c where
  id := bc.id.trans ab.id
  ordinal := bc.ordinal.trans ab.ordinal
  createdAt := bc.createdAt.trans ab.createdAt
  frozen deleted := by
    have same := ab.frozen deleted
    exact (bc.frozen (same ▸ deleted)).trans same

/-- Every row of a list is at its place in another list, as what it may have become. -/
def Kept (before after : List Row) : Prop :=
  ∀ (i : Nat) (a : Row), before[i]? = some a → ∃ b, after[i]? = some b ∧ a.Evolves b

theorem Kept.refl (rows : List Row) : Kept rows rows :=
  fun _ a h => ⟨a, h, .refl a⟩

theorem Kept.trans {a b c : List Row} (ab : Kept a b) (bc : Kept b c) : Kept a c := by
  intro i x hx
  obtain ⟨y, hy, xy⟩ := ab i x hx
  obtain ⟨z, hz, yz⟩ := bc i y hy
  exact ⟨z, hz, xy.trans yz⟩

theorem Kept.length_le {a b : List Row} (h : Kept a b) : a.length ≤ b.length := by
  cases last : a.length with
  | zero => exact Nat.zero_le _
  | succ n =>
      obtain ⟨_, there, _⟩ := h n _ (List.getElem?_eq_getElem (by omega))
      exact (List.getElem?_eq_some_iff.1 there).1

theorem Kept.mem {a b : List Row} (h : Kept a b) {x : Row} (member : x ∈ a) :
    ∃ y ∈ b, x.Evolves y := by
  obtain ⟨i, hi⟩ := List.mem_iff_getElem?.1 member
  obtain ⟨y, hy, xy⟩ := h i x hi
  exact ⟨y, List.mem_of_getElem? hy, xy⟩

end Row
end Memory
end AccountStore

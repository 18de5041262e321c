import AccountStore.Proofs.Table.Sound

/-!
# Edits

What an update does to the rows of a table: it assigns columns where some conditions hold. An edit
that writes no column of an index is always admitted. Two edits commute if neither writes what the
other reads and they write different columns or never the same row (`Edit.apply_comm`); then an
update says the same and does the same to a table that was edited before
(`TableState.execute_edited`).
-/

namespace AccountStore
open Calendar

/-- The columns that a condition looks at. -/
def Condition.columns : Condition → List Column
  | live => [.deletedAt]
  | equals column _ => [column]
  | contact _ => [.phoneNumber, .email]

namespace Memory

theorem Row.satisfies_congr {k : Condition} {a b : Row} (same : ∀ c ∈ k.columns, a c = b c) :
    a.satisfies k = b.satisfies k := by
  cases k with
  | live => exact congrArg Value.isNull (same .deletedAt (by simp [Condition.columns]))
  | equals column value =>
      exact congrArg (·.same value) (same column (by simp [Condition.columns]))
  | contact predicate =>
      have phone := same .phoneNumber (by simp [Condition.columns])
      have email := same .email (by simp [Condition.columns])
      cases predicate <;> simp only [satisfies, matchesContact, phone, email]

theorem Row.assign_comm {m n : Instant} {first second : List (Column × Assigned)}
    (apart : ∀ a ∈ first, ∀ b ∈ second, a.1 ≠ b.1) (row : Row) :
    (row.assign m first).assign n second = (row.assign n second).assign m first := by
  funext c
  simp only [assign]
  cases left : first.find? (fun a => a.1 = c) with
  | none => rfl
  | some a =>
      cases right : second.find? (fun b => b.1 = c) with
      | none => rfl
      | some b =>
          have ofA : a.1 = c := by simpa using List.find?_some left
          have ofB : b.1 = c := by simpa using List.find?_some right
          exact absurd (ofA.trans ofB.symm)
            (apart a (List.mem_of_find?_eq_some left) b (List.mem_of_find?_eq_some right))

/-- An assignment to the rows that satisfy some conditions, at a time of the database. -/
structure Edit where
  now : Instant
  assignments : List (Column × Assigned)
  conditions : List Condition

namespace Edit

variable {e f : Edit} {row : Row} {c : Column}

def apply (e : Edit) (row : Row) : Row :=
  if row.satisfiesAll e.conditions then row.assign e.now e.assignments else row

def Writes (e : Edit) (c : Column) : Prop :=
  ∃ a ∈ e.assignments, a.1 = c

def Reads (e : Edit) (c : Column) : Prop :=
  ∃ k ∈ e.conditions, c ∈ k.columns

/-- The order of the edits does not matter. -/
structure Independent (e f : Edit) : Prop where
  left (c : Column) : e.Writes c → ¬ f.Reads c
  right (c : Column) : f.Writes c → ¬ e.Reads c
  apart : (∀ c, e.Writes c → ¬ f.Writes c) ∨
    ∀ row : Row, row.satisfiesAll e.conditions = true → row.satisfiesAll f.conditions = false

/-- The edit writes neither identifiers nor deletion markers nor these columns. -/
def Spares (columns : List Column) (e : Edit) : Prop :=
  ∀ c ∈ Column.id :: .deletedAt :: columns, ¬ e.Writes c

theorem apply_of_not_writes (unwritten : ¬ e.Writes c) (row : Row) : e.apply row c = row c := by
  unfold apply
  split
  · exact Row.assign_of_notMem (fun a member same => unwritten ⟨a, member, same⟩) row
  · rfl

theorem apply_of_not (other : ¬ row.satisfiesAll e.conditions = true) : e.apply row = row :=
  if_neg other

theorem satisfiesAll_apply {conditions : List Condition}
    (unread : ∀ c, e.Writes c → ¬ ∃ k ∈ conditions, c ∈ k.columns) (row : Row) :
    (e.apply row).satisfiesAll conditions = row.satisfiesAll conditions := by
  rw [Bool.eq_iff_iff, Row.satisfiesAll, Row.satisfiesAll, List.all_eq_true, List.all_eq_true]
  refine forall₂_congr fun k member => ?_
  rw [Row.satisfies_congr fun c looked =>
    apply_of_not_writes (fun written => unread c written ⟨k, member, looked⟩) row]

theorem apply_comm (independent : e.Independent f) (row : Row) :
    e.apply (f.apply row) = f.apply (e.apply row) := by
  have readsE : (f.apply row).satisfiesAll e.conditions = row.satisfiesAll e.conditions :=
    satisfiesAll_apply independent.right row
  have readsF : (e.apply row).satisfiesAll f.conditions = row.satisfiesAll f.conditions :=
    satisfiesAll_apply independent.left row
  by_cases inE : row.satisfiesAll e.conditions = true
  · by_cases inF : row.satisfiesAll f.conditions = true
    · rcases independent.apart with columns | rows
      · rw [apply, if_pos (readsE.trans inE), apply, if_pos inF, apply, if_pos (readsF.trans inF),
          apply, if_pos inE]
        refine Row.assign_comm (fun b ofF a ofE same => ?_) row
        exact columns a.1 ⟨a, ofE, rfl⟩ ⟨b, ofF, same⟩
      · rw [rows row inE] at inF
        exact absurd inF Bool.false_ne_true
    · rw [apply_of_not inF]
      exact (apply_of_not (by rwa [readsF])).symm
  · rw [apply_of_not inE]
    exact apply_of_not (by rwa [readsE])

theorem isLive_apply {columns : List Column} (spares : e.Spares columns) (row : Row) :
    (e.apply row).isLive = row.isLive :=
  congrArg Value.isNull (apply_of_not_writes (spares .deletedAt (by simp)) row)

end Edit

/-! ## Edits of a table -/

namespace TableState

variable {e f : Edit} {columns : List Column} {rows : List Row} {t : Table} {state : TableState}
  {s : Statement}

def edited (e : Edit) (state : TableState) : TableState :=
  { state with rows := state.rows.map e.apply }

/-- The indexes do not see an edit that spares their columns. -/
theorem admits_map_apply (spares : e.Spares columns) :
    Admits columns (rows.map e.apply) ↔ Admits columns rows := by
  have kept : ∀ c ∈ Column.id :: .deletedAt :: columns, ∀ row, e.apply row c = row c :=
    fun c member => Edit.apply_of_not_writes (spares c member)
  have live : (rows.map e.apply).filter Row.isLive = (rows.filter Row.isLive).map e.apply := by
    rw [List.filter_map]
    simp only [Function.comp_def, Edit.isLive_apply spares]
  unfold Admits DistinctIds DistinctLive
  rw [live, List.pairwise_map, List.pairwise_map]
  simp only [kept .id (by simp)]
  refine and_congr_right fun _ => List.Pairwise.iff fun a b => forall₂_congr fun c member => ?_
  rw [kept c (by simp [member]), kept c (by simp [member])]

theorem execute_edit (state : TableState) (e : Edit)
    (means : s.meaning = .update e.assignments e.conditions) :
    state.execute e.now s =
      if Admits state.liveUnique (state.edited e).rows then
        (.ok (state.rows.countP (Row.satisfiesAll e.conditions)), state.edited e)
      else (.error duplicate, state) := by
  by_cases admitted : Admits state.liveUnique (state.edited e).rows
  · rw [if_pos admitted]
    exact execute_update_of_admits means admitted
  · rw [if_neg admitted]
    exact execute_update_of_not_admits means admitted

theorem edited_comm (independent : e.Independent f) (state : TableState) :
    (state.edited e).edited f = (state.edited f).edited e := by
  unfold edited
  simp only [List.map_map, Function.comp_def, Edit.apply_comm independent]

theorem countP_edited {conditions : List Condition}
    (unread : ∀ c, e.Writes c → ¬ ∃ k ∈ conditions, c ∈ k.columns) (state : TableState) :
    (state.edited e).rows.countP (Row.satisfiesAll conditions) =
      state.rows.countP (Row.satisfiesAll conditions) := by
  unfold edited
  simp only [List.countP_map, Function.comp_def, Edit.satisfiesAll_apply unread]

/-- An update answers the same, and does the same, on a table that was edited before. -/
theorem execute_edited (independent : e.Independent f) (spares : e.Spares state.liveUnique)
    (means : s.meaning = .update f.assignments f.conditions) :
    (state.edited e).execute f.now s =
      ((state.execute f.now s).1, (state.execute f.now s).2.edited e) := by
  have admitted : Admits (state.edited e).liveUnique ((state.edited e).edited f).rows ↔
      Admits state.liveUnique (state.edited f).rows := by
    rw [edited_comm independent]
    exact admits_map_apply spares
  rw [execute_edit _ f means, execute_edit _ f means, countP_edited independent.left, edited_comm independent]
  rw [edited_comm independent] at admitted
  by_cases h : Admits state.liveUnique (state.edited f).rows
  · rw [if_pos h, if_pos (admitted.2 h)]
  · rw [if_neg h, if_neg fun other => h (admitted.1 other)]

theorem Sound.execute_edit (sound : state.Sound t) (spares : e.Spares t.liveUnique)
    (means : s.meaning = .update e.assignments e.conditions) :
    state.execute e.now s =
      (.ok (state.rows.countP (Row.satisfiesAll e.conditions)), state.edited e) := by
  rw [TableState.execute_edit state e means, if_pos]
  rw [← sound.indexed] at spares
  exact (admits_map_apply spares).2 sound.admits

end TableState

def Accounts.edited (t : Table) (e : Edit) (accounts : Accounts) : Accounts :=
  accounts.set t ((accounts.get t).edited e)

end Memory
end AccountStore

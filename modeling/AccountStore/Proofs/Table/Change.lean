import AccountStore.Proofs.Table.Row

/-!
# What statements do to a table

`Changes` is the only way in which a statement takes effect; `execute_cases` and `query_cases` say
that otherwise the table stays as it is. From this one relation it follows that lawful statements
keep a table sound and that rows only evolve. All of it is about what statements mean, whichever way
they are written.
-/

namespace AccountStore
open Calendar Memory

namespace Statement

variable {s : Statement} {t : Table} {cells : List (Column × Value)}
  {assignments : List (Column × Assigned)} {conditions : List Condition}

/-- A write that keeps a table in order. -/
def Lawful (t : Table) (s : Statement) : Prop :=
  s.table = t ∧ match s.meaning with
    | .insert cells => ∀ n, (Row.ofCells n cells).New t
    | .update assignments conditions =>
        .live ∈ conditions ∧ ∀ a ∈ assignments,
          a.1 ∉ [Column.id, .ordinal, .createdAt] ∧ ∀ now, a.1.Holds (a.2.stored now)
    | _ => False

theorem Lawful.insert (lawful : s.Lawful t) (means : s.meaning = .insert cells) (n : Nat) :
    (Row.ofCells n cells).New t := by
  obtain ⟨_, lawful⟩ := lawful
  rw [means] at lawful
  exact lawful n

theorem Lawful.update (lawful : s.Lawful t) (means : s.meaning = .update assignments conditions) :
    .live ∈ conditions ∧ ∀ a ∈ assignments,
      a.1 ∉ [Column.id, .ordinal, .createdAt] ∧ ∀ now, a.1.Holds (a.2.stored now) := by
  obtain ⟨_, lawful⟩ := lawful
  rw [means] at lawful
  exact lawful

theorem eq_insert_of_meaning (means : s.meaning = .insert cells) :
    ∃ returning, s = .insert s.table cells returning := by
  cases s with
  | insert t cells returning =>
      cases means
      exact ⟨returning, rfl⟩
  | _ => cases means

theorem ne_insert (other : ∀ cells, s.meaning ≠ .insert cells) :
    ∀ t cells returning, s ≠ .insert t cells returning := by
  rintro t cells returning rfl
  exact other cells rfl

end Statement

namespace Memory.TableState

variable {now : Instant} {state : TableState} {s : Statement}
  {assignments : List (Column × Assigned)} {conditions : List Condition}

def assigned (now : Instant) (assignments : List (Column × Assigned))
    (conditions : List Condition) (rows : List Row) : List Row :=
  rows.map fun row => if row.satisfiesAll conditions then row.assign now assignments else row

/-- A statement takes effect on a table. -/
inductive Changes (now : Instant) (state : TableState) (s : Statement) : TableState → Prop
  | inserted {cells : List (Column × Value)} (means : s.meaning = .insert cells)
      (admitted : Admits state.liveUnique (state.rows ++ [Row.ofCells state.next cells])) :
      Changes now state s
        { state with rows := state.rows ++ [Row.ofCells state.next cells], next := state.next + 1 }
  | updated {assignments : List (Column × Assigned)} {conditions : List Condition}
      (means : s.meaning = .update assignments conditions)
      (admitted : Admits state.liveUnique (assigned now assignments conditions state.rows))
      (affected : ∃ row ∈ state.rows, row.satisfiesAll conditions = true) :
      Changes now state s { state with rows := assigned now assignments conditions state.rows }

/-! ## Executions and queries -/

theorem assigned_of_none {rows : List Row}
    (none : ∀ row ∈ rows, row.satisfiesAll conditions = false) :
    assigned now assignments conditions rows = rows := by
  unfold assigned
  rw [List.map_congr_left (g := id) fun row member => by simp [none row member], List.map_id]

theorem execute_insert (now : Instant) (state : TableState) (t : Table)
    (cells : List (Column × Value)) (returning : Bool) :
    (∃ after, state.execute now (.insert t cells returning) = (.ok 1, after) ∧
        state.Changes now (.insert t cells returning) after) ∨
      state.execute now (.insert t cells returning) = (.error duplicate, state) := by
  by_cases admitted : Admits state.liveUnique (state.rows ++ [Row.ofCells state.next cells])
  · refine Or.inl ⟨_, ?_, .inserted rfl admitted⟩
    simp only [execute, Statement.meaning, insert, replace, if_pos admitted]
  · exact Or.inr (by simp only [execute, Statement.meaning, insert, replace, if_neg admitted])

theorem execute_update_of_admits (means : s.meaning = .update assignments conditions)
    (admitted : Admits state.liveUnique (assigned now assignments conditions state.rows)) :
    state.execute now s =
      (.ok (state.rows.countP (Row.satisfiesAll conditions)),
        { state with rows := assigned now assignments conditions state.rows }) := by
  unfold assigned at admitted ⊢
  simp only [execute, means, update, replace, if_pos admitted]

theorem execute_update_of_not_admits (means : s.meaning = .update assignments conditions)
    (refused : ¬ Admits state.liveUnique (assigned now assignments conditions state.rows)) :
    state.execute now s = (.error duplicate, state) := by
  unfold assigned at refused
  simp only [execute, means, update, replace, if_neg refused]

theorem execute_update (now : Instant) (state : TableState)
    (means : s.meaning = .update assignments conditions) :
    (∃ n after, state.execute now s = (.ok (n + 1), after) ∧ state.Changes now s after) ∨
      ((∀ row ∈ state.rows, row.satisfiesAll conditions = false) ∧
        state.execute now s = (.ok 0, state)) ∨
      (¬ Admits state.liveUnique (assigned now assignments conditions state.rows) ∧
        state.execute now s = (.error duplicate, state)) := by
  by_cases admitted : Admits state.liveUnique (assigned now assignments conditions state.rows)
  · have run := execute_update_of_admits means admitted
    cases count : state.rows.countP (Row.satisfiesAll conditions) with
    | zero =>
        have none : ∀ row ∈ state.rows, row.satisfiesAll conditions = false := by
          simpa using count
        rw [count, assigned_of_none none] at run
        exact Or.inr (Or.inl ⟨none, run⟩)
    | succ n =>
        rw [count] at run
        exact Or.inl ⟨n, _, run, .updated means admitted (List.countP_pos_iff.1 (by omega))⟩
  · exact Or.inr (Or.inr ⟨admitted, execute_update_of_not_admits means admitted⟩)

theorem execute_cases (now : Instant) (state : TableState) (s : Statement) :
    (∃ n after, state.execute now s = (.ok (n + 1), after) ∧ state.Changes now s after) ∨
      (state.execute now s = (.ok 0, state) ∧ ∀ t cells returning, s ≠ .insert t cells returning) ∨
      state.execute now s = (.error duplicate, state) := by
  cases means : s.meaning with
  | insert cells =>
      obtain ⟨returning, eq⟩ := Statement.eq_insert_of_meaning means
      rw [eq]
      rcases execute_insert now state s.table cells returning with ⟨after, run, change⟩ | run
      · exact Or.inl ⟨0, after, run, change⟩
      · exact Or.inr (Or.inr run)
  | update assignments conditions =>
      rcases execute_update now state means with effect | ⟨_, run⟩ | ⟨_, run⟩
      · exact Or.inl effect
      · exact Or.inr (Or.inl ⟨run, Statement.ne_insert (by simp [means])⟩)
      · exact Or.inr (Or.inr run)
  | select | count | found =>
      exact Or.inr (Or.inl ⟨by simp only [execute, means], Statement.ne_insert (by simp [means])⟩)

theorem Changes.execute {after : TableState} (change : state.Changes now s after) :
    ∃ n, state.execute now s = (.ok (n + 1), after) := by
  cases change with
  | inserted means admitted =>
      exact ⟨0, by simp only [TableState.execute, means, insert, replace, if_pos admitted]⟩
  | updated means admitted affected =>
      obtain ⟨n, count⟩ := Nat.exists_eq_succ_of_ne_zero
        (Nat.ne_of_gt (List.countP_pos_iff.2 affected))
      exact ⟨n, by rw [execute_update_of_admits means admitted, count]⟩

theorem Changes.of_insert {after : TableState} {cells : List (Column × Value)}
    (change : state.Changes now s after) (means : s.meaning = .insert cells) :
    after = { state with
      rows := state.rows ++ [Row.ofCells state.next cells], next := state.next + 1 } := by
  cases change with
  | inserted same =>
      cases means.symm.trans same
      rfl
  | updated other => cases means.symm.trans other

theorem Changes.of_update {after : TableState} (change : state.Changes now s after)
    (means : s.meaning = .update assignments conditions) :
    (∃ row ∈ state.rows, row.satisfiesAll conditions = true) ∧
      after = { state with rows := assigned now assignments conditions state.rows } := by
  cases change with
  | inserted other => cases means.symm.trans other
  | updated same _ affected =>
      cases means.symm.trans same
      exact ⟨affected, rfl⟩

def returned (state : TableState) (t : Table) (cells : List (Column × Value)) : ResultRow :=
  Row.project t t.projection (Row.ofCells state.next cells)

theorem query_cases (now : Instant) (state : TableState) (s : Statement) :
    (∃ t cells returning after, s = .insert t cells returning ∧
        state.query s = (.ok [state.returned t cells], after) ∧ state.Changes now s after) ∨
      (s.isMutating = true ∧ state.query s = (.error duplicate, state)) ∨
      ∃ rows, (∀ t cells returning, s ≠ .insert t cells returning) ∧
        state.query s = (.ok rows, state) := by
  cases means : s.meaning with
  | insert cells =>
      obtain ⟨returning, eq⟩ := Statement.eq_insert_of_meaning means
      by_cases admitted : Admits state.liveUnique (state.rows ++ [Row.ofCells state.next cells])
      · refine Or.inl ⟨s.table, cells, returning, _, eq, ?_, .inserted means admitted⟩
        simp only [query, means, insert, replace, if_pos admitted, returned]
      · refine Or.inr (Or.inl ⟨by simp only [Statement.isMutating, means], ?_⟩)
        simp only [query, means, insert, replace, if_neg admitted]
  | select | count | found | update =>
      have answered : ∃ rows, state.query s = (.ok rows, state) := by
        simp only [query, means]
        exact ⟨_, rfl⟩
      obtain ⟨rows, run⟩ := answered
      exact Or.inr (Or.inr ⟨rows, Statement.ne_insert (by simp [means]), run⟩)

end Memory.TableState
end AccountStore

import AccountStore.Proofs.Operation.Failure
import AccountStore.Proofs.Statement.Written

/-!
# Columns that a write may not name

Insertions and updates are built from lists of columns and values. A list without columns is
refused, and so is one with a column that belongs to the database; the error names the first such
column. From any other list the write is built, with the columns and values of the list in its order
(`column_checks`). What entities are written with is never refused, so no operation ends with such an
error.
-/

namespace AccountStore

/-! ## The check -/

namespace Statement

variable {write : Write} {t : Table} {cells : List (Column × Value)}

theorem malformed?_eq_none_iff :
    malformed? write t cells = none ↔ cells ≠ [] ∧ ∀ c ∈ cells, c.1 ∉ forbidden write := by
  cases cells <;> simp [malformed?]

theorem malformed?_first {before after : List (Column × Value)} {c : Column × Value}
    (passed : ∀ b ∈ before, b.1 ∉ forbidden write) (stopped : c.1 ∈ forbidden write) :
    malformed? write t (before ++ c :: after) = some (.forbiddenColumn write t c.1) := by
  have found : (before ++ c :: after).find? (fun b => b.1 ∈ forbidden write) = some c :=
    List.find?_eq_some_iff_append.2
      ⟨by simpa using stopped, before, after, rfl, by simpa using passed⟩
  simp [malformed?, found]

theorem insertable_allowed (t : Table) :
    t.insertable ≠ [] ∧ ∀ c ∈ t.insertable, c ∉ forbidden .insert := by
  cases t <;> decide

theorem updatable_allowed (t : Table) :
    t.updatable ≠ [] ∧ ∀ c ∈ t.updatable, c ∉ forbidden .update := by
  cases t <;> decide

theorem inserting_eq (returning : Bool) :
    inserting t cells returning =
      (malformed? .insert t cells).elim (.ok (.insert t cells returning)) .error := by
  unfold inserting
  cases malformed? .insert t cells <;> rfl

theorem updating_eq (id : String) :
    updating t id cells =
      (malformed? .update t cells).elim
        (.ok (.update t (cells.map fun c => (c.1, .value c.2)) (gate id))) .error := by
  unfold updating
  cases malformed? .update t cells <;> rfl

end Statement

/-- How a builder of writes answers a list of columns and values when some columns are denied to
it. -/
structure ChecksColumns (write : Write) (t : Table) (denied : List Column)
    (cells : List (Column × Value)) (statement : Statement) (built : Except AccountError Statement) :
    Prop where
  refused : (∃ e, built = .error e ∧ e.code = "BUILD_ERROR") ↔
    cells = [] ∨ ∃ c ∈ cells, c.1 ∈ denied
  empty : cells = [] → ∃ e, built = .error e ∧ e.code = "BUILD_ERROR" ∧
    e.detail? = some (write.name ++ " on " ++ t.name ++ " has no columns")
  first (before after : List (Column × Value)) (c : Column × Value) :
    cells = before ++ c :: after → (∀ b ∈ before, b.1 ∉ denied) → c.1 ∈ denied →
      ∃ e, built = .error e ∧ e.code = "BUILD_ERROR" ∧
        e.detail? = some (write.name ++ " on " ++ t.name ++ " may not write column " ++ c.1.name t)
  passed : cells ≠ [] → (∀ c ∈ cells, c.1 ∉ denied) → built = .ok statement

theorem Statement.checksColumns {write : Write} {t : Table} {cells : List (Column × Value)}
    {statement : Statement} {built : Except Malformed Statement}
    (eq : built = (malformed? write t cells).elim (.ok statement) .error) :
    ChecksColumns write t (forbidden write) cells statement (built.mapError .malformed) where
  refused := by
    have fails : (∃ e, built.mapError AccountError.malformed = .error e ∧ e.code = "BUILD_ERROR") ↔
        malformed? write t cells ≠ none := by
      rw [eq]
      cases malformed? write t cells <;> simp [Except.mapError, AccountError.code]
    rw [fails, Ne, malformed?_eq_none_iff, not_and_or, not_not]
    simp
  empty := by
    rintro rfl
    exact ⟨.malformed (.noColumns write t), by rw [eq]; rfl, rfl, rfl⟩
  first := by
    rintro before after c rfl passed stopped
    refine ⟨.malformed (.forbiddenColumn write t c.1), ?_, rfl, rfl⟩
    rw [eq, malformed?_first passed stopped]
    rfl
  passed some allowed := by
    rw [eq, malformed?_eq_none_iff.2 ⟨some, allowed⟩]
    rfl

/-- What the builders of writes make of lists of columns and values, and of accounts. -/
structure ColumnChecks (α : Type) [Account α] : Prop where
  inserting (t : Table) (cells : List (Column × Value)) (returning : Bool) :
    ChecksColumns .insert t [.ordinal, .deletedAt] cells (.insert t cells returning)
      ((Statement.inserting t cells returning).mapError .malformed)
  inserted (t : Table) (cells : List (Column × Value)) (returning : Bool) :
    let s := Statement.insert t cells returning
    s.text = Statement.insertText t (cells.map (·.1)) returning ∧ s.values = cells.map (·.2)
  updating (t : Table) (id : String) (cells : List (Column × Value)) :
    ChecksColumns .update t [.id, .ordinal, .createdAt, .deletedAt] cells
      (.update t (cells.map fun c => (c.1, .value c.2))
        [.equals .id (.text (some id)), .live])
      ((Statement.updating t id cells).mapError .malformed)
  updated (t : Table) (id : String) (cells : List (Column × Value)) :
    let s := Statement.update t (cells.map fun c => (c.1, .value c.2))
      [.equals .id (.text (some id)), .live]
    s.text = Statement.updateText t (cells.map (·.1)) ∧
      s.values = cells.map (·.2) ++ [.text (some id)]
  /-- What an account is inserted with passes the checks. -/
  insertion (a : α) (returning : Bool) :
    let t := Account.table α
    let cells := Store.cells t.insertable a
    Statement.inserting t cells returning = .ok (.insert t cells returning)
  /-- What an account is updated with passes the checks. -/
  update (a : α) (id : String) :
    let t := Account.table α
    let cells := Store.cells t.updatable a
    Statement.updating t id cells = .ok (.update t
      (cells.map fun c => (c.1, .value c.2)) [.equals .id (.text (some id)), .live])
  neverFails {σ : Type} (driver : Driver σ) (timing : Timing) (stamp : Stamp) (call : Call α)
    (state : σ) (e : AccountError) :
    (call.run driver timing stamp state).1 = .error e → e.code ≠ "BUILD_ERROR"

theorem column_checks (α : Type) [Account α] : ColumnChecks α where
  inserting t cells returning := Statement.checksColumns (Statement.inserting_eq returning)
  inserted t cells returning := ⟨Statement.text_insert returning, Statement.values_insert returning⟩
  updating t id cells := Statement.checksColumns (Statement.updating_eq id)
  updated t id cells := ⟨Statement.text_update id, Statement.values_update id⟩
  insertion a returning := by
    intro t cells
    have passed := Statement.malformed_cells .insert t t.insertable
      (Statement.insertable_allowed t).1 (Statement.insertable_allowed t).2 a
    rw [Statement.inserting_eq, passed]
    rfl
  update a id := by
    intro t cells
    have passed := Statement.malformed_cells .update t t.updatable
      (Statement.updatable_allowed t).1 (Statement.updatable_allowed t).2 a
    rw [Statement.updating_eq, passed]
    rfl
  neverFails driver timing stamp call state e failed :=
    (call.wellBuilt driver timing stamp state failed).code_ne

/-- Of two columns that an update may not name, the error names the one that comes first; without
them the update is built. -/
theorem column_checks_of_two_forbidden :
    (∃ e : AccountError, (Statement.updating .users "u-1" [(.firstName, .text (some "Ann")),
        (.createdAt, .timestamp none), (.id, .text (some "u-2"))]).mapError .malformed = .error e ∧
      e.code = "BUILD_ERROR" ∧ e.detail? = some "update on users may not write column created_at") ∧
    ∃ s, (Statement.updating .users "u-1" [(.firstName, .text (some "Ann")),
        (.gender, .text (some "F"))]).mapError AccountError.malformed = .ok s ∧
      s.text = "UPDATE \"users\" SET \"first_name\" = $1, \"gender\" = $2 WHERE \"id\" = $3" ++
        " AND \"deleted_at\" IS NULL" ∧
      s.values = [.text (some "Ann"), .text (some "F"), .text (some "u-1")] := by
  have checks := column_checks User
  have named := (checks.updating .users "u-1" _).first [(.firstName, .text (some "Ann"))]
    [(.id, .text (some "u-2"))] (.createdAt, .timestamp none) rfl (by decide) (by decide)
  have passed := (checks.updating .users "u-1" [(.firstName, .text (some "Ann")),
    (.gender, .text (some "F"))]).passed (by decide) (by decide)
  refine ⟨named, _, passed, ?_, (checks.updated .users "u-1" _).2⟩
  rw [(checks.updated .users "u-1" _).1]
  decide +kernel

end AccountStore

import AccountStore.Memory.Database
import AccountStore.Proofs.Operation.Comparison

/-!
# Steps and the table they are about

A step sends statements on one table only. So what it answers and what it leaves in that table
follow from that table alone (`Step.run_at`), the other table stays as it is
(`Step.run_get_of_ne`), and on a whole database it does what it does on the account tables, if its
table is there, and otherwise nothing (`Step.run_database`).
-/

namespace AccountStore
open Calendar Memory

/-! ## Programs on one table -/

/-- The same statements, on one table, and the same answers. -/
def Matching.at (t : Table) : Matching :=
  .sameErrors (fun s u => u = s ∧ s.table = t) Eq

namespace Program

variable {t : Table} {c : Change} {p : Program α}

theorem Makes.together_at (makes : p.Makes t c) : p.Together (.at t) Eq p :=
  makes.together (fun _ table => ⟨rfl, table⟩) fun _ _ same => same

/-- Without its table a program changes nothing, and fails if it has to write. -/
theorem Makes.runWithin_dropped (makes : p.Makes t c) {db : Database} (absent : t ∈ db.dropped)
    (now : Instant) (timing : Timing) (operation : String) (elapsed : Nat) :
    let run := p.runWithin (Database.driver now) timing operation elapsed db
    run.2 = db ∧ (p.Needs → ∃ e, run.1 = .error e) := by
  induction p generalizing elapsed with
  | done r => exact ⟨rfl, id⟩
  | execute s next ih =>
      obtain ⟨writes, _, _, stops⟩ := makes
      rw [← writes.table] at absent
      simp only [Program.runWithin, Database.driver, Database.guarded, if_pos absent,
        stops Database.noTable]
      exact ⟨rfl, fun _ => ⟨_, rfl⟩⟩
  | query s next ih =>
      obtain ⟨sends, _, stops⟩ := makes
      have table : s.table = t := sends.elim And.left fun writes => writes.1.table
      rw [← table] at absent
      simp only [Program.runWithin, Database.driver, Database.guarded, if_pos absent,
        stops Database.noTable]
      exact ⟨rfl, fun _ => ⟨_, rfl⟩⟩
  | pause next ih =>
      simp only [Program.runWithin]
      split
      · exact ⟨rfl, fun _ => ⟨_, rfl⟩⟩
      · exact ih makes _

end Program

/-! ## Drivers -/

namespace Memory

variable {t : Table}

theorem Accounts.driver_matches (t : Table) (now : Instant) :
    Driver.Matches (.at t) (fun a b : Accounts => a.get t = b.get t) (driver now) (driver now) where
  execute {a b s u} same sent := by
    obtain ⟨rfl, rfl⟩ := sent
    simp only [driver, execute, same, get_set, and_true]
    exact .of_eq rfl
  query {a b s u} same sent := by
    obtain ⟨rfl, rfl⟩ := sent
    simp only [driver, query, same, get_set, and_true]
    exact .of_eq rfl

/-- While a table is there, statements on it see the account tables alone. -/
theorem Database.driver_matches {db : Database} (there : t ∉ db.dropped) (now : Instant) :
    Driver.Matches (.at t) (fun x accounts => x = { db with accounts }) (driver now)
      (Accounts.driver now) where
  execute {x accounts s u} same sent := by
    obtain ⟨rfl, rfl⟩ := sent
    subst same
    simp only [driver, guarded, if_neg there, Accounts.driver, and_true]
    exact .of_eq rfl
  query {x accounts s u} same sent := by
    obtain ⟨rfl, rfl⟩ := sent
    subst same
    simp only [driver, guarded, if_neg there, Accounts.driver, and_true]
    exact .of_eq rfl

end Memory

/-! ## Runs -/

/-- A change is made in a table of a database, which is there, and nowhere else. -/
structure Change.AppliesIn (c : Change) (t : Table) (now : Instant) (db after : Database) :
    Prop where
  there : t ∉ db.dropped
  applies : c.Applies t now db.accounts after.accounts
  others : after = { db with accounts := after.accounts }

/-- A program that makes one change does nothing on a database, or it makes its change in its
table. -/
theorem Program.Makes.runWithin_database {t : Table} {c : Change} {p : Program α}
    (makes : p.Makes t c) (now : Instant) (timing : Timing) (operation : String) (elapsed : Nat)
    (db : Database) :
    let run := p.runWithin (Database.driver now) timing operation elapsed db
    (run.2 = db ∧ (p.Needs → ∃ e, run.1 = .error e)) ∨
      c.AppliesIn t now db run.2 ∧ ∃ a, run.1 = .ok a := by
  intro run
  by_cases there : t ∈ db.dropped
  · exact Or.inl (makes.runWithin_dropped there now timing operation elapsed)
  · obtain ⟨answer, after⟩ := makes.together_at.runWithin
      (Database.driver_matches there now) timing operation elapsed (a := db) (b := db.accounts) rfl
    have answer : run.1 = _ := answer.eq
    have after : run.2 = _ := after
    rw [answer, after]
    rcases @Makes.runWithin _ t c p now timing operation elapsed db.accounts makes with
      ⟨same, failed⟩ | ⟨applies, ok⟩
    · left
      rw [same]
      exact ⟨rfl, failed⟩
    · exact Or.inr ⟨⟨there, applies, rfl⟩, ok⟩

theorem Call.run_database {α : Type} [Account α] [Account.Lawful α] (call : Call α)
    (timing : Timing) (now : Instant) (stamp : Stamp) (db : Database) :
    let run := call.run (Database.driver now) timing stamp db
    (run.2 = db ∧ ∀ id, (call.change stamp).target? = some id → ∃ e, run.1 = .error e) ∨
      (call.change stamp).AppliesIn (Account.table α) now db run.2 ∧ ∃ a, run.1 = .ok a := by
  rw [Call.run_eq]
  exact ((call.makes_program stamp).runWithin_database now _ _ _ db).imp_left
    (And.imp_right fun failed id target => failed (Call.needs_program target))

namespace Step

theorem run_at {a b : Accounts} (step : Step) (same : a.get step.table = b.get step.table)
    (timing : Timing) (now : Instant) (stamp : Stamp) :
    let first := step.run (Accounts.driver now) timing stamp a
    let second := step.run (Accounts.driver now) timing stamp b
    first.1 = second.1 ∧ first.2.get step.table = second.2.get step.table := by
  rw [run_eq, run_eq]
  have together := (step.makes_program stamp).together_at.runWithin
    (Accounts.driver_matches step.table now) (step.timing timing) step.operation 0 same
  exact ⟨together.1.eq, together.2⟩

theorem run_database (step : Step) (timing : Timing) (now : Instant) (stamp : Stamp)
    (db : Database) :
    let run := step.run (Database.driver now) timing stamp db
    run.2 = db ∨ (step.change stamp).AppliesIn step.table now db run.2 := by
  rw [run_eq]
  exact ((step.makes_program stamp).runWithin_database now _ _ _ db).imp And.left And.left

theorem run_get_of_ne {t : Table} (step : Step) (other : t ≠ step.table) (timing : Timing)
    (now : Instant) (stamp : Stamp) (accounts : Accounts) :
    (step.run (Accounts.driver now) timing stamp accounts).2.get t = accounts.get t := by
  rcases step.run_cases timing now stamp accounts with ⟨same, _⟩ | ⟨⟨s, state, _, _, after⟩, _⟩
  · rw [same]
  · rw [after, Accounts.get_set_of_ne other]

end Step
end AccountStore

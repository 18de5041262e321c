import AccountStore.Memory.Database
import AccountStore.Proofs.Redaction.Calls
import AccountStore.Proofs.Table.Sound

/-!
# Redacted databases

A database and its redacted copy answer redacted statements alike, and they take the same changes of
the schema: no migration looks at a secret column.
-/

namespace AccountStore
open Calendar Memory

namespace Secrets

variable {k : Secrets}

def accounts (k : Secrets) (accounts : Accounts) : Accounts :=
  ⟨k.table accounts.users, k.table accounts.admins⟩

def database (k : Secrets) (db : Database) : Database :=
  { db with accounts := k.accounts db.accounts }

/-- The second database is the first one redacted; no unique index is on a secret column. -/
structure Redacts (k : Secrets) (a b : Database) : Prop where
  avoids (t : Table) : k.AvoidsAt (a.accounts.get t)
  eq : b = k.database a

/-! ## Statements on databases -/

theorem get_accounts (accounts : Accounts) (t : Table) :
    (k.accounts accounts).get t = k.table (accounts.get t) := by
  cases t <;> rfl

theorem accounts_set (accounts : Accounts) (t : Table) (state : TableState) :
    k.accounts (accounts.set t state) = (k.accounts accounts).set t (k.table state) := by
  cases t <;> rfl

theorem avoidsAt_set {accounts : Accounts} (avoids : ∀ u, k.AvoidsAt (accounts.get u)) (t : Table)
    {state : TableState} (avoidsAt : k.AvoidsAt state) (u : Table) :
    k.AvoidsAt ((accounts.set t state).get u) :=
  Accounts.forall_set (P := fun _ state => k.AvoidsAt state) avoidsAt avoids u

/-- The drivers of a database and of its redacted copy. -/
theorem driver_matches (k : Secrets) (now : Instant) :
    Driver.Matches k.matching k.Redacts (Database.driver now) (Database.driver now) where
  execute {a b s t} start sent := by
    obtain ⟨avoids, rfl⟩ := start
    obtain ⟨avoidsIn, rfl⟩ := sent
    simp only [Database.driver, Database.guarded, Accounts.execute, table_statement, database,
      get_accounts, execute_table (avoids s.table) now avoidsIn, ← accounts_set]
    by_cases absent : s.table ∈ a.dropped
    · rw [if_pos absent, if_pos absent]
      exact ⟨.error rfl, avoids, rfl⟩
    · rw [if_neg absent, if_neg absent]
      refine ⟨.of_eq rfl, ?_, rfl⟩
      refine avoidsAt_set avoids s.table ?_
      rw [AvoidsAt, TableState.liveUnique_execute]
      exact avoids s.table
  query {a b s t} start sent := by
    obtain ⟨avoids, rfl⟩ := start
    obtain ⟨avoidsIn, rfl⟩ := sent
    simp only [Database.driver, Database.guarded, Accounts.query, table_statement, database,
      get_accounts, query_table (avoids s.table) avoidsIn, ← accounts_set]
    by_cases absent : s.table ∈ a.dropped
    · rw [if_pos absent, if_pos absent]
      exact ⟨.error rfl, avoids, rfl⟩
    · rw [if_neg absent, if_neg absent]
      refine ⟨?_, avoidsAt_set avoids s.table ?_, rfl⟩
      · cases ((a.accounts.get s.table).query s).1 with
        | error e => exact .error rfl
        | ok rows => exact .ok rfl
      · rw [AvoidsAt, TableState.liveUnique_query]
        exact avoids s.table

/-! ## Changes of the schema -/

/-- The definition creates no unique index on a secret column. -/
def avoidsIndex (k : Secrets) : Definition → Bool
  | .createLiveUnique _ c => !k.hides c
  | _ => true

theorem avoidsIndex_of_mem (k : Secrets) :
    ∀ m ∈ Migration.all, ∀ d ∈ m.up ++ m.down, k.avoidsIndex d = true := by
  cases k <;> decide

section Schema

variable {a b : Database}

theorem Redacts.setLiveUnique (start : k.Redacts a b) (t : Table) (columns : List Column)
    (seen : ∀ c ∈ columns, k.hides c = false) :
    k.Redacts (a.setLiveUnique t columns) (b.setLiveUnique t columns) := by
  obtain ⟨avoids, rfl⟩ := start
  refine ⟨avoidsAt_set avoids t seen, ?_⟩
  simp only [Database.setLiveUnique, database, accounts_set, get_accounts]
  rfl

theorem Redacts.define (start : k.Redacts a b) {d : Definition} (avoidsIndex : k.avoidsIndex d) :
    Likewise Eq k.Redacts (a.define d) (b.define d) := by
  obtain ⟨avoids, rfl⟩ := start
  have start : k.Redacts a (k.database a) := ⟨avoids, rfl⟩
  have dropped : (k.database a).dropped = a.dropped := rfl
  have backend : (k.database a).backend = a.backend := rfl
  have markerIndexed : (k.database a).markerIndexed = a.markerIndexed := rfl
  have liveUnique (t : Table) : ((k.database a).accounts.get t).liveUnique =
      (a.accounts.get t).liveUnique := by
    cases t <;> rfl
  cases d with
  | createTable t =>
      simp only [Database.define, dropped, backend]
      split
      · exact .error rfl
      · split
        · refine .ok ⟨avoidsAt_set avoids t nofun, ?_⟩
          simp only [database, accounts_set]
          rfl
        · exact .ok start
  | createDeletedIndex t =>
      simp only [Database.define, dropped, markerIndexed]
      split
      · exact .error rfl
      · split
        · exact .error rfl
        · exact .ok ⟨avoids, rfl⟩
  | dropTable t =>
      simp only [Database.define, dropped]
      split
      · exact .error rfl
      · refine .ok ⟨avoidsAt_set avoids t nofun, ?_⟩
        simp only [database, accounts_set]
        rfl
  | createLiveUnique t c =>
      have seen : k.hides c = false := by simpa [Secrets.avoidsIndex] using avoidsIndex
      have indexed := start.setLiveUnique t ((a.accounts.get t).liveUnique ++ [c])
        (List.forall_mem_append.2 ⟨avoids t, by simpa using seen⟩)
      have distinct : TableState.DistinctLive [c] ((k.database a).accounts.get t).rows ↔
          TableState.DistinctLive [c] (a.accounts.get t).rows := by
        rw [database, get_accounts]
        exact distinctLive_map (by simpa using seen) _
      simp only [Database.define, dropped, liveUnique, distinct]
      split
      · exact .error rfl
      · split
        · exact .ok start
        · split
          · exact .ok indexed
          · exact .error rfl
  | dropLiveUnique t c =>
      have unindexed := start.setLiveUnique t ((a.accounts.get t).liveUnique.filter (· ≠ c))
        fun d member => avoids t d (List.mem_filter.1 member).1
      simp only [Database.define, liveUnique]
      exact .ok unindexed

/-- Both give the same, and the second database is still the first one redacted. -/
inductive Alike (k : Secrets) : β × Database → β × Database → Prop
  | intro (given : β) {a b : Database} (after : k.Redacts a b) : Alike k (given, a) (given, b)

theorem Redacts.defineAll (start : k.Redacts a b) {ds : List Definition}
    (avoids : ∀ d ∈ ds, k.avoidsIndex d) :
    k.Alike (Database.defineAll ds a) (Database.defineAll ds b) := by
  induction ds generalizing a b with
  | nil => exact .intro _ start
  | cons d rest ih =>
      have defined := start.define (avoids d List.mem_cons_self)
      simp only [Database.defineAll]
      generalize a.define d = x at defined
      generalize b.define d = y at defined
      cases defined with
      | ok after => exact ih after fun d member => avoids d (List.mem_cons_of_mem _ member)
      | error same =>
          rw [same]
          exact .intro _ start

theorem Redacts.applied (start : k.Redacts a b) (names : List String) :
    k.Redacts { a with applied := names } { b with applied := names } := by
  obtain ⟨avoids, rfl⟩ := start
  exact ⟨avoids, rfl⟩

theorem Redacts.applyAll (start : k.Redacts a b) {ms : List Migration}
    (known : ∀ m ∈ ms, m ∈ Migration.all) :
    k.Alike (Database.applyAll ms a) (Database.applyAll ms b) := by
  induction ms generalizing a b with
  | nil => exact .intro _ start
  | cons m rest ih =>
      have carried := start.defineAll fun d member =>
        avoidsIndex_of_mem k m (known m List.mem_cons_self) d (List.mem_append_left _ member)
      simp only [Database.applyAll]
      generalize Database.defineAll m.up a = x at carried
      generalize Database.defineAll m.up b = y at carried
      cases carried with
      | @intro result a' b' after =>
          cases result with
          | error e => exact .intro _ after
          | ok =>
              have names : b'.applied = a'.applied := by rw [after.eq]; rfl
              dsimp only
              rw [names]
              exact ih (after.applied _) fun m member => known m (List.mem_cons_of_mem _ member)

theorem Redacts.undo (start : k.Redacts a b) {m : Migration} (known : m ∈ Migration.all) :
    k.Alike (Database.undo m a) (Database.undo m b) := by
  have carried := start.defineAll fun d member =>
    avoidsIndex_of_mem k m known d (List.mem_append_right _ member)
  simp only [Database.undo]
  generalize Database.defineAll m.down a = x at carried
  generalize Database.defineAll m.down b = y at carried
  cases carried with
  | @intro result a' b' after =>
      cases result with
      | error e => exact .intro _ after
      | ok =>
          have names : b'.applied = a'.applied := by rw [after.eq]; rfl
          dsimp only
          rw [names]
          exact .intro _ (after.applied _)

theorem Redacts.settle (start : k.Redacts a b) {x y : Except DriverError Unit × Database}
    (attempts : k.Alike x y) : k.Alike (a.settle x) (b.settle y) := by
  have backend : b.backend = a.backend := by rw [start.eq]; rfl
  cases attempts with
  | @intro result a' b' after =>
      cases result with
      | ok => exact .intro _ after
      | error e =>
          simp only [Database.settle, backend]
          split
          · exact .intro _ start
          · exact .intro _ after

theorem Redacts.up (start : k.Redacts a b) : k.Alike a.up b.up := by
  have unknown : b.unknownRecorded = a.unknownRecorded := by rw [start.eq]; rfl
  have isApplied : b.isApplied = a.isApplied := by rw [start.eq]; rfl
  simp only [Database.up, unknown, isApplied]
  split
  · exact .intro _ start
  · exact start.settle (start.applyAll fun m member => (List.mem_filter.1 member).1)

theorem Redacts.down (start : k.Redacts a b) : k.Alike a.down b.down := by
  have unknown : b.unknownRecorded = a.unknownRecorded := by rw [start.eq]; rfl
  have isApplied : b.isApplied = a.isApplied := by rw [start.eq]; rfl
  simp only [Database.down, unknown, isApplied]
  split
  · exact .intro _ start
  · cases last : (Migration.all.filter a.isApplied).getLast? with
    | none => exact .intro _ start
    | some m =>
        exact start.settle (start.undo (List.mem_filter.1 (List.mem_of_getLast? last)).1)

theorem redacts_blank (k : Secrets) (backend : Backend) :
    k.Redacts (.blank backend) (.blank backend) :=
  ⟨fun t => by cases t <;> exact nofun, rfl⟩

theorem Redacts.fresh (start : k.Redacts a b) : k.Alike a.fresh b.fresh := by
  have backend : b.backend = a.backend := by rw [start.eq]; rfl
  simp only [Database.fresh, backend]
  exact start.settle (redacts_blank k a.backend).up

theorem redacts_initial (k : Secrets) (backend : Backend) (markerIndexed : List Table)
    (applied : List String) :
    k.Redacts (.initial backend markerIndexed applied)
      (.initial backend markerIndexed applied) := by
  have unique : ∀ t : Table, ∀ c ∈ t.liveUnique, k.hides c = false := by
    intro t
    cases t <;> cases k <;> decide
  unfold Database.initial
  split
  · refine ⟨fun t => ?_, rfl⟩
    cases t with
    | users => exact unique .users
    | admins => exact unique .admins
  · exact ⟨fun t => by cases t <;> exact nofun, rfl⟩

end Schema
end Secrets
end AccountStore

import AccountStore.Command.Run
import AccountStore.Proofs.Operation.OneTable
import AccountStore.Proofs.Schema.Migration

/-!
# Databases in use

Operations of the store and command lines lead from one database to the next, in any order
(`Leads`). What the record promises is kept by each of them (`Intact`): a table that is recorded is
there, and indexes that are recorded are complete. Of the commands, only a deletion changes rows.
-/

namespace AccountStore
open Calendar Memory

/-! ## Commands -/

namespace Command

variable {db after : Database} {e : DriverError}

/-- The change that an account command may make. -/
def AccountAction.change : AccountAction → Change
  | .delete id => .deletion id
  | _ => .nothing

theorem change_of_serviceCall {α : Type} [Account α] {action : AccountAction}
    {call : ServiceCall α} (called : serviceCall action = .ok call) (stamp : Stamp) :
    call.change stamp = action.change := by
  cases action with
  | get | delete | checkField =>
      cases called
      rfl
  | list options =>
      simp only [serviceCall] at called
      generalize filters options.filters = read at called
      cases read with
      | error rejection => exact absurd called nofun
      | ok filters =>
          cases called
          rfl

theorem runAccount_cases (α : Type) [Account α] [Account.Lawful α] (timing : Timing)
    (stamp : Stamp) (action : AccountAction) (db : Database) :
    let ran := runAccount α timing stamp action db
    (ran.db = db ∧ ∀ id, action = .delete id → ∃ e, ran.result = .error e) ∨
      ∃ id, action = .delete id ∧
        (Change.deletion id).AppliesIn (Account.table α) stamp.now db ran.db ∧
        ran.result = .ok () := by
  unfold runAccount
  cases called : serviceCall (α := α) action with
  | error rejection => exact Or.inl ⟨rfl, fun _ _ => ⟨_, rfl⟩⟩
  | ok call =>
      have change : (Call.service call).change stamp = action.change :=
        change_of_serviceCall called stamp
      have ran := (Call.service call).run_database timing stamp.now stamp db
      dsimp only at ran ⊢
      rw [change] at ran
      generalize (Call.service call).run (Database.driver stamp.now) timing stamp db = x at ran
      obtain ⟨answer, after⟩ := x
      rcases ran with ⟨same, failed⟩ | ⟨applies, a, ok⟩
      · cases same
        cases answer with
        | error e => exact Or.inl ⟨rfl, fun _ _ => ⟨e, rfl⟩⟩
        | ok answer =>
            refine Or.inl ⟨rfl, ?_⟩
            rintro id rfl
            obtain ⟨e, failed⟩ := failed id rfl
            cases failed
      · cases ok
        cases action with
        | delete id => exact Or.inr ⟨id, rfl, applies, rfl⟩
        | get | list | checkField =>
            obtain ⟨s, _, writes, _⟩ := applies.applies
            exact writes.elim

variable {config : ServiceConfig} {opens : DatabaseConfig → Opening}

theorem runOn_account_of_refused (config : ServiceConfig) (stamp : Stamp) (t : Table)
    (action : AccountAction) (refused : db.up = (.error e, after)) :
    runOn config stamp (.account t action) db = .failed e after := by
  simp only [runOn, refused]

/-- An account command brings the schema up to date, and a deletion that succeeds then marks its
row. -/
theorem runOn_account_cases (config : ServiceConfig) (stamp : Stamp) (t : Table)
    (action : AccountAction) (db : Database) :
    let ran := runOn config stamp (.account t action) db
    (ran.db = db.up.2 ∧ ∀ id, action = .delete id → ∃ e, ran.result = .error e) ∨
      ∃ id, action = .delete id ∧ (Change.deletion id).AppliesIn t stamp.now db.up.2 ran.db ∧
        ran.result = .ok () := by
  simp only [runOn]
  generalize db.up = x
  obtain ⟨result, after⟩ := x
  cases result with
  | error e => exact Or.inl ⟨rfl, fun _ _ => ⟨_, rfl⟩⟩
  | ok =>
      cases t with
      | users => exact runAccount_cases User ..
      | admins => exact runAccount_cases Admin ..

theorem db_changed (event : LogEvent) (attempt : Except DriverError Unit × Database) :
    (changed event attempt).db = attempt.2 := by
  obtain ⟨_ | _, after⟩ := attempt <;> rfl

theorem run_of_here (here : opens config.database = .here) (stamp : Stamp) (command : Command)
    (db : Database) : run opens config stamp command db = runOn config stamp command db := by
  simp only [run, here]

theorem db_run_of_ne_here (other : opens config.database ≠ .here) (stamp : Stamp)
    (command : Command) (db : Database) : (run opens config stamp command db).db = db := by
  unfold run
  split
  · rfl
  next here => exact absurd here other
  · rfl

end Command

/-! ## The invariant -/

namespace Memory.Database

variable {start db after : Database}

/-- What the record promises, and that no unknown name gets onto it. -/
structure Intact (start db : Database) : Prop where
  known : start.Known → db.Known
  consistent : db.Consistent
  there (t : Table) : db.Records t.creation → t ∉ db.dropped
  complete : db.Records .addLiveUnique → (∀ t, t ∉ db.dropped) ∧ db.Indexed

theorem intact_initial (backend : Backend) (markerIndexed : List Table) (applied : List String) :
    Intact (initial backend markerIndexed applied) (initial backend markerIndexed applied) := by
  by_cases recorded : Migration.addLiveUnique.name ∈ applied
  · refine ⟨id, ⟨fun t => ?_, fun _ => nofun⟩, fun _ _ => List.not_mem_nil,
      fun _ => ⟨fun _ => List.not_mem_nil, fun t => ?_⟩⟩
    · simp only [initial, if_pos recorded]
      cases t <;> exact TableState.consistent_empty fun _ => id
    · simp only [initial, if_pos recorded]
      cases t <;> exact fun _ => id
  · refine ⟨id, ⟨fun t => ?_, fun _ => nofun⟩, fun _ _ => List.not_mem_nil,
      fun claimed => absurd claimed recorded⟩
    simp only [initial, if_neg recorded]
    cases t <;> exact TableState.consistent_empty (List.nil_subset _)

theorem intact_blank (backend : Backend) : Intact start (blank backend) where
  known _ _ member := absurd member List.not_mem_nil
  consistent :=
    { tables := fun t => by cases t <;> exact TableState.consistent_empty (List.nil_subset _)
      emptied := fun t _ => by cases t <;> rfl }
  there _ recorded := absurd recorded List.not_mem_nil
  complete recorded := absurd recorded List.not_mem_nil

namespace Intact

theorem of_extends (intact : Intact start db) (extend : db.Extends after) : Intact start after where
  known given := by
    unfold Known
    rw [extend.applied]
    exact intact.known given
  consistent := extend.consistent
  there t recorded absent := intact.there t (extend.records_iff.1 recorded) (extend.there absent)
  complete recorded := by
    obtain ⟨there, indexed⟩ := intact.complete (extend.records_iff.1 recorded)
    exact ⟨fun t absent => there t (extend.there absent),
      fun t => List.Subset.trans (indexed t) (extend.liveUnique t)⟩

/-- A migration gets onto the record once all that it adds is in place. -/
theorem record (intact : Intact start db) {m : Migration} (known : m ∈ Migration.all)
    (inPlace : ∀ d ∈ m.up, db.InPlace d) :
    Intact start { db with applied := db.applied ++ [m.name] } where
  known given := List.forall_mem_append.2 ⟨intact.known given, by simpa using ⟨m, known, rfl⟩⟩
  consistent := ⟨intact.consistent.tables, intact.consistent.emptied⟩
  there t recorded := by
    rcases List.mem_append.1 recorded with before | now
    · exact intact.there t before
    · obtain rfl : t.creation = m := Migration.eq_of_name
        (Migration.mem_all.2 (Or.inl ⟨t, rfl⟩)) known (List.mem_singleton.1 now)
      exact inPlace _ (Migration.createTable_mem_up t)
  complete recorded := by
    rcases List.mem_append.1 recorded with before | now
    · exact intact.complete before
    · obtain rfl : .addLiveUnique = m := Migration.eq_of_name (Migration.mem_all.2 (Or.inr rfl))
        known (List.mem_singleton.1 now)
      have indexed (t : Table) (c : Column) (unique : c ∈ t.liveUnique) :=
        inPlace _ (Migration.createLiveUnique_mem_up.2 unique)
      exact ⟨fun t => (indexed t .phoneNumber (by cases t <;> decide)).1,
        fun t c unique => (indexed t c unique).2⟩

/-- Migrations one after another: all of them, or up to one that fails. -/
theorem applyAll {ms : List Migration} (intact : Intact start db)
    (known : ∀ m ∈ ms, m ∈ Migration.all) :
    Intact start (applyAll ms db).2 ∧ db.SameRows (Database.applyAll ms db).2 ∧
      ((Database.applyAll ms db).1 = .ok () →
        ∀ m, m ∈ ms ∨ db.Records m → (Database.applyAll ms db).2.Records m) := by
  induction ms generalizing db with
  | nil => exact ⟨intact, .refl db, fun _ m recorded => recorded.resolve_left List.not_mem_nil⟩
  | cons first rest ih =>
      have firstKnown := known first List.mem_cons_self
      obtain ⟨extend, inPlace⟩ :=
        intact.consistent.defineAll (Migration.adds_of_mem_up firstKnown)
      simp only [Database.applyAll]
      generalize defineAll first.up db = attempt at *
      obtain ⟨e | _, next⟩ := attempt
      · refine ⟨intact.of_extends extend, extend.toSameRows, fun succeeded => ?_⟩
        cases succeeded
      · obtain ⟨intact, same, records⟩ :=
          ih ((intact.of_extends extend).record firstKnown (inPlace rfl))
            fun m member => known m (List.mem_cons_of_mem _ member)
        refine ⟨intact, extend.toSameRows.trans ⟨same.there, same.rows, same.next⟩,
          fun succeeded m recorded => records succeeded m ?_⟩
        rcases recorded with member | before
        · refine (List.mem_cons.1 member).symm.imp_right ?_
          rintro rfl
          simp [Records]
        · exact Or.inr (List.mem_append_left _ (extend.records_iff.2 before))

theorem settle {attempt : Except DriverError Unit × Database} (intact : Intact start db)
    (after : Intact start attempt.2) (same : db.SameRows attempt.2) :
    Intact start (db.settle attempt).2 ∧ db.SameRows (db.settle attempt).2 := by
  rcases db.settle_cases attempt with kept | ⟨e, _, undone⟩
  · rw [kept]
    exact ⟨after, same⟩
  · rw [undone]
    exact ⟨intact, .refl db⟩

/-- A run up changes tables, indexes and the record, never rows. -/
theorem up (intact : Intact start db) : Intact start db.up.2 ∧ db.SameRows db.up.2 := by
  by_cases known : db.Known
  · rw [up_of_known known]
    obtain ⟨after, same, _⟩ := intact.applyAll fun m member => (List.mem_filter.1 member).1
    exact intact.settle after same
  · rw [up_of_unknown known]
    exact ⟨intact, .refl db⟩

/-- A run up that succeeds leaves nothing pending. -/
theorem records_up (intact : Intact start db) (succeeded : db.up.1 = .ok ()) {m : Migration}
    (member : m ∈ Migration.all) : db.up.2.Records m := by
  by_cases known : db.Known
  · rw [up_of_known known] at succeeded ⊢
    obtain ⟨_, _, records⟩ := intact.applyAll fun m member => (List.mem_filter.1 member).1
    rcases db.settle_cases (Database.applyAll (Migration.all.filter fun m =>
      !decide (db.Records m)) db) with kept | ⟨e, failed, undone⟩
    · rw [kept] at succeeded ⊢
      refine records succeeded m ?_
      by_cases before : db.Records m
      · exact Or.inr before
      · exact Or.inl (List.mem_filter.2 ⟨member, by simp [before]⟩)
    · rw [undone] at succeeded
      cases succeeded
  · rw [up_of_unknown known] at succeeded
    cases succeeded

theorem down (intact : Intact start db) : Intact start db.down.2 := by
  rcases intact.consistent.down_cases with ⟨result, run⟩ | ⟨unindexed, same, consistent, run⟩ |
    ⟨pending, t, run⟩ <;> rw [run]
  · exact intact
  · refine ⟨fun given name member => intact.known given name (List.mem_filter.1 member).1,
      ⟨consistent.tables, consistent.emptied⟩, fun t recorded absent => ?_, fun recorded => ?_⟩
    · exact intact.there t (List.mem_filter.1 recorded).1 (same.there absent)
    · simp [Records] at recorded
  · refine ⟨fun given name member => intact.known given name (List.mem_filter.1 member).1,
      intact.consistent.withoutTable t, fun u recorded => ?_,
      fun recorded => absurd (List.mem_filter.1 recorded).1 pending⟩
    obtain ⟨before, other⟩ : db.Records u.creation ∧ u.creation.name ≠ t.creation.name := by
      simpa [Records, withoutTable] using recorded
    have differ : u ≠ t := fun same => other (same ▸ rfl)
    exact fun absent => (List.mem_cons.1 absent).elim differ (intact.there u before)

theorem fresh (intact : Intact start db) : Intact start db.fresh.2 := by
  rcases db.settle_cases (blank db.backend).up with kept | ⟨e, _, undone⟩
  · rw [Database.fresh, kept]
    exact (intact_blank db.backend).up.1
  · rw [Database.fresh, undone]
    exact intact

theorem appliesIn {t : Table} {c : Change} {now : Instant} (intact : Intact start db)
    (lawful : c.Lawful t) (applies : c.AppliesIn t now db after) : Intact start after := by
  obtain ⟨present, ⟨s, state, writes, change, accounts⟩, others⟩ := applies
  rw [others, accounts]
  have own := (intact.consistent.tables t).changes (writes.lawful lawful) change
  refine ⟨intact.known,
    intact.consistent.set own rfl (fun absent => absurd absent present) fun _ absent _ => absent,
    intact.there, fun recorded => ?_⟩
  obtain ⟨there, indexed⟩ := intact.complete recorded
  refine ⟨there,
    Accounts.forall_set (P := fun u state => u.liveUnique ⊆ state.liveUnique) ?_ indexed⟩
  rw [change.liveUnique_eq]
  exact indexed t

theorem runOn (intact : Intact start db) (config : ServiceConfig) (stamp : Stamp)
    (command : Command) : Intact start (Command.runOn config stamp command db).db := by
  cases command with
  | ping => exact intact
  | migrate action =>
      cases action with
      | up => exact Command.db_changed .migrated db.up ▸ intact.up.1
      | down => exact Command.db_changed .rolledBack db.down ▸ intact.down
      | fresh => exact Command.db_changed .reset db.fresh ▸ intact.fresh
      | status =>
          simp only [Command.runOn, Command.runMigrate]
          split <;> exact intact
  | account t action =>
      rcases Command.runOn_account_cases config stamp t action db with
        ⟨same, _⟩ | ⟨id, _, applies, _⟩
      · rw [same]
        exact intact.up.1
      · have lawful : (Change.deletion id).Lawful t := trivial
        exact intact.up.1.appliesIn lawful applies

theorem runLine (intact : Intact start db) (opens : DatabaseConfig → Command.Opening)
    (env : Environment) (stamp : Stamp) (args : List String) :
    Intact start (Command.runLine opens env stamp args db).2 := by
  unfold Command.runLine
  cases Command.read args with
  | error stop => exact intact
  | ok command =>
      show Intact start (Command.run opens (.ofEnvironment env) stamp command db).db
      by_cases here : opens (ServiceConfig.ofEnvironment env).database = .here
      · rw [Command.run_of_here here]
        exact intact.runOn _ stamp command
      · rw [Command.db_run_of_ne_here here]
        exact intact

end Intact

/-! ## Use -/

/-- Operations and command lines lead from one database to another. -/
inductive Leads (start : Database) : Database → Prop
  | refl : Leads start start
  | operation {db : Database} (timing : Timing) (now : Instant) (stamp : Stamp) (step : Step)
      (before : Leads start db) :
      Leads start (step.run (Database.driver now) timing stamp db).2
  | line {db : Database} (opens : DatabaseConfig → Command.Opening) (env : Environment)
      (stamp : Stamp) (args : List String) (before : Leads start db) :
      Leads start (Command.runLine opens env stamp args db).2

theorem Leads.runSteps (leads : Leads start db) (timing : Timing) (steps : List (Stamp × Step)) :
    Leads start (runSteps Database.driver timing steps db).2 := by
  induction steps generalizing db with
  | nil => exact leads
  | cons head rest ih => exact ih (.operation timing head.1.now head.1 head.2 leads)

theorem Leads.intact {given : Database} (leads : Leads start db) (intact : Intact given start) :
    Intact given db := by
  induction leads with
  | refl => exact intact
  | operation timing now stamp step _ ih =>
      rcases step.run_database timing now stamp _ with same | applies
      · rw [same]
        exact ih
      · exact ih.appliesIn (step.lawful_change stamp) applies
  | line opens env stamp args _ ih => exact ih.runLine opens env stamp args

end Memory.Database
end AccountStore

import AccountStore.Proofs.Schema.Use

/-!
# The life of a schema

A record may start with any names, on any kind of database. Whatever operations and command lines
follow, the record of the unique indexes means that they are there and that live contact details are
distinct. Recording them takes just that, however many of the indexes an earlier attempt has left
behind.
-/

namespace AccountStore
open Calendar

namespace Memory.Database

variable {start db after : Database} {e : DriverError}

/-- The first database could not get its indexes, and the second is what the attempt left. -/
structure Refusal (db after : Database) : Prop where
  applied : after.applied = db.applied
  sameRows : db.SameRows after
  /-- Commands on accounts fail, if they are not for another database. -/
  commands (opens : DatabaseConfig → Command.Opening) (env : Environment) (stamp : Stamp)
    {args : List String} {t : Table} {action : Command.AccountAction}
    (read : Command.read args = .ok (.account t action))
    (own : ∀ other, opens (ServiceConfig.ofEnvironment env).database ≠ .elsewhere other) :
    (Command.runLine opens env stamp args db).1.exitCode = 1 ∧
      (Command.runLine opens env stamp args after).1.exitCode = 1
  /-- A later attempt finds the record as it was, and contact details that are distinct now. -/
  retry {later : Database} (leads : after.Leads later) (applied : later.applied = db.applied)
    (distinct : later.ContactsDistinct) :
    ∃ done, later.up = (.ok (), done) ∧ done.Records .addLiveUnique ∧ later.SameRows done

/-- What holds at every point of the use of a database, from its start on. -/
structure Lifecycle (start db : Database) : Prop where
  known : start.Known → db.Known
  recorded : db.Records .addLiveUnique →
    (∀ t, t ∉ db.dropped) ∧ db.Indexed ∧ db.ContactsDistinct
  awaiting : db.AwaitsIndexes →
    ((∃ after, db.up = (.ok (), after)) ↔ db.ContactsDistinct) ∧
      ∀ e after, db.up = (.error e, after) → Refusal db after
  /-- No run up changes a row, and one that succeeds leaves nothing pending. -/
  upgraded : db.SameRows db.up.2 ∧ (db.up.1 = .ok () → ∀ m ∈ Migration.all, db.up.2.Records m)
  /-- Where account tables can be created, a fresh start has them, and they are empty. -/
  fresh : db.backend.countsBesideKey = true →
    ∃ after, db.fresh = (.ok (), after) ∧ (∀ m ∈ Migration.all, after.Records m) ∧
      ∀ t, (after.accounts.get t).rows = []
  status : (Command.runMigrate .status db).db = db
  complete : db.Known → (∀ m ∈ Migration.all, db.Records m) → db.up = (.ok (), db)
  unknown : ¬ db.Known → ∀ action ∈ [Command.MigrateAction.status, .up, .down],
    ∃ e, Command.runMigrate action db = .failed e db

/-! ## Runs up -/

theorem exitCode_of_refused (refused : db.up = (.error e, after))
    {opens : DatabaseConfig → Command.Opening} {env : Environment}
    (own : ∀ other, opens (ServiceConfig.ofEnvironment env).database ≠ .elsewhere other)
    (stamp : Stamp) {args : List String} {t : Table} {action : Command.AccountAction}
    (read : Command.read args = .ok (.account t action)) :
    (Command.runLine opens env stamp args db).1.exitCode = 1 := by
  have failed : ∃ cause after,
      Command.run opens (.ofEnvironment env) stamp (.account t action) db =
        .failed cause after := by
    cases opened : opens (ServiceConfig.ofEnvironment env).database with
    | nothing cause => exact ⟨cause, db, by simp only [Command.run, opened]⟩
    | here =>
        rw [Command.run_of_here opened, Command.runOn_account_of_refused _ stamp t action refused]
        exact ⟨e, after, rfl⟩
    | elsewhere other => exact absurd opened (own other)
  obtain ⟨cause, after, failed⟩ := failed
  simp only [Command.runLine, read, failed]
  rfl

theorem fresh_of_countsBesideKey (able : db.backend.countsBesideKey = true) :
    ∃ after, db.fresh = (.ok (), after) ∧ (∀ m ∈ Migration.all, after.Records m) ∧
      ∀ t, (after.accounts.get t).rows = [] := by
  have built : (blank db.backend).up.1 = .ok () := by
    generalize db.backend = backend at able
    obtain ⟨_, _ | _⟩ := backend <;> cases able <;> decide +kernel
  have intact := @intact_blank db db.backend
  obtain ⟨_, same⟩ := intact.up
  refine ⟨(blank db.backend).up.2, ?_, fun m => intact.records_up built, fun t => ?_⟩
  · have run : (blank db.backend).up = (.ok (), (blank db.backend).up.2) := Prod.ext built rfl
    rw [fresh, run]
    rfl
  · rw [same.rows]
    cases t <;> rfl

theorem Intact.up_of_awaits (intact : Intact start db) (awaits : db.AwaitsIndexes) :
    ∃ indexed, db.Extends indexed ∧
      ((db.ContactsDistinct ∧ db.up =
          (.ok (), { indexed with applied := db.applied ++ [Migration.addLiveUnique.name] })) ∨
        (¬ db.ContactsDistinct ∧ ∃ e, db.up = (.error e, indexed))) :=
  intact.consistent.up_of_awaits (fun t => intact.there t (awaits.created t)) awaits

theorem Intact.up_of_distinct (intact : Intact start db) (awaits : db.AwaitsIndexes)
    (distinct : db.ContactsDistinct) :
    ∃ done, db.up = (.ok (), done) ∧ done.Records .addLiveUnique ∧ db.SameRows done := by
  obtain ⟨indexed, extend, ⟨_, run⟩ | ⟨shared, _⟩⟩ := intact.up_of_awaits awaits
  · exact ⟨_, run, by simp [Records], extend.there, extend.rows, extend.next⟩
  · exact absurd distinct shared

theorem Intact.up_of_shared (intact : Intact start db) (awaits : db.AwaitsIndexes)
    (shared : ¬ db.ContactsDistinct) :
    ∃ e indexed, db.Extends indexed ∧ db.up = (.error e, indexed) := by
  obtain ⟨indexed, extend, ⟨distinct, _⟩ | ⟨_, e, run⟩⟩ := intact.up_of_awaits awaits
  · exact absurd distinct shared
  · exact ⟨e, indexed, extend, run⟩

theorem Intact.refusal (intact : Intact start db) (awaits : db.AwaitsIndexes)
    (refused : db.up = (.error e, after)) : Refusal db after := by
  have shared : ¬ db.ContactsDistinct := by
    intro distinct
    obtain ⟨done, run, _⟩ := intact.up_of_distinct awaits distinct
    rw [run] at refused
    cases refused
  obtain ⟨cause, indexed, extend, run⟩ := intact.up_of_shared awaits shared
  obtain rfl : after = indexed := by
    rw [run] at refused
    cases refused
    rfl
  have intactAfter := intact.of_extends extend
  -- The indexes that are there now change nothing: the rows are the same and refuse again.
  obtain ⟨_, _, _, again⟩ := intactAfter.up_of_shared (awaits.congr extend.applied)
    fun distinct => shared (extend.contactsDistinct_iff.1 distinct)
  refine ⟨extend.applied, extend.toSameRows, ?_, ?_⟩
  · intro opens env stamp args t action read own
    exact ⟨exitCode_of_refused refused own stamp read, exitCode_of_refused again own stamp read⟩
  · intro later leads applied distinct
    exact (leads.intact intactAfter).up_of_distinct (awaits.congr applied) distinct

end Memory.Database

open Memory Database

theorem schema_lifecycle {backend : Backend} {markerIndexed : List Table} {applied : List String}
    {db : Database} (leads : (Database.initial backend markerIndexed applied).Leads db) :
    Lifecycle (.initial backend markerIndexed applied) db := by
  have intact := leads.intact (intact_initial backend markerIndexed applied)
  constructor
  case known => exact intact.known
  case recorded =>
    intro recorded
    obtain ⟨there, indexed⟩ := intact.complete recorded
    exact ⟨there, indexed, intact.consistent.contactsDistinct indexed⟩
  case awaiting =>
    intro awaits
    refine ⟨⟨?_, ?_⟩, fun e after refused => intact.refusal awaits refused⟩
    · rintro ⟨after, run⟩
      by_contra shared
      obtain ⟨_, _, _, refused⟩ := intact.up_of_shared awaits shared
      rw [run] at refused
      cases refused
    · intro distinct
      obtain ⟨done, run, _⟩ := intact.up_of_distinct awaits distinct
      exact ⟨done, run⟩
  case upgraded => exact ⟨intact.up.2, fun succeeded _ => intact.records_up succeeded⟩
  case fresh => exact fresh_of_countsBesideKey
  case status =>
    simp only [Command.runMigrate]
    split <;> rfl
  case complete => exact up_of_complete
  case unknown =>
    intro unknown action member
    simp only [List.mem_cons, List.not_mem_nil, or_false] at member
    rcases member with rfl | rfl | rfl
    · simp only [Command.runMigrate, status_of_unknown unknown]
      exact ⟨_, rfl⟩
    · simp only [Command.runMigrate, up_of_unknown unknown]
      exact ⟨_, rfl⟩
    · simp only [Command.runMigrate, down_of_unknown unknown]
      exact ⟨_, rfl⟩

namespace Memory.Database

def afterSteps (steps : List Step) (db : Database) : Database :=
  (runSteps Database.driver ⟨0, 30000⟩ (steps.map fun step => (⟨"", .epoch⟩, step)) db).2

/-- A database that has its tables only. -/
def unindexed (backend : Backend) : Database :=
  .initial backend [.users, .admins] [Migration.createUsers.name, Migration.createAdmins.name]

/-- Two admins have one email. -/
def sharedEmail (backend : Backend) : Database :=
  afterSteps
    [.admin (.store (.create { id := "a", phoneNumber := "+1", email := "e" })),
     .admin (.store (.create { id := "b", phoneNumber := "+2", email := "e" }))] (unindexed backend)

/-- An attempt to create the indexes fails, and then one of the two admins is deleted. -/
def retried (backend : Backend) : Database :=
  afterSteps [.admin (.service (.delete "b"))] (sharedEmail backend).up.2

end Memory.Database

/-- Whether the attempt at the indexes leaves those before the one that is refused or none, the next
one succeeds after one of the two admins was deleted. -/
theorem schema_lifecycle_of_shared_email :
    let holds (backend : Backend) : Prop :=
      let db := sharedEmail backend
      (unindexed backend).Leads db ∧ Lifecycle (unindexed backend) db ∧ db.AwaitsIndexes ∧
        ¬ db.ContactsDistinct ∧ Refusal db db.up.2 ∧ (retried backend).ContactsDistinct ∧
        ∃ done, (retried backend).up = (.ok (), done) ∧ done.Records .addLiveUnique ∧
          (retried backend).SameRows done
    holds .postgres ∧ holds .sqlite ∧
      (sharedEmail .postgres).up.2.accounts.admins.liveUnique = [] ∧
      (sharedEmail .sqlite).up.2.accounts.admins.liveUnique = [.phoneNumber] := by
  intro holds
  have each : ∀ backend, backend = .postgres ∨ backend = .sqlite → holds backend := by
    intro backend either
    let db := sharedEmail backend
    have leads : (unindexed backend).Leads db := Leads.runSteps .refl _ _
    have lifecycle : Lifecycle (unindexed backend) db := schema_lifecycle leads
    have awaits : db.AwaitsIndexes := by
      rcases either with rfl | rfl <;> refine ⟨by decide +kernel, ?_, by decide +kernel⟩ <;>
        rintro (_ | _) <;> decide +kernel
    have failed : ∃ e, db.up.1 = .error e := by
      rcases either with rfl | rfl <;> exact ⟨TableState.duplicate, by decide +kernel⟩
    have shared : ¬ db.ContactsDistinct := by rcases either with rfl | rfl <;> decide +kernel
    obtain ⟨e, failed⟩ := failed
    have refusal : Refusal db db.up.2 := (lifecycle.awaiting awaits).2 e _ (Prod.ext failed rfl)
    have distinct : (retried backend).ContactsDistinct := by
      rcases either with rfl | rfl <;> decide +kernel
    have applied : (retried backend).applied = db.applied := by
      rcases either with rfl | rfl <;> decide +kernel
    exact ⟨leads, lifecycle, awaits, shared, refusal, distinct,
      refusal.retry (Leads.runSteps .refl _ _) applied distinct⟩
  exact ⟨each .postgres (Or.inl rfl), each .sqlite (Or.inr rfl), by decide +kernel,
    by decide +kernel⟩

end AccountStore

import AccountStore.Memory.Database
import AccountStore.Proofs.Schema.Index

/-!
# Migrations on a database

What an attempt to migrate leaves of the tables, their indexes and the record, on any kind of
database. A definition of a run up only adds (`Consistent.define`), and so what was in place, and all
rows, are still there after the next ones. Rows can refuse one thing alone, their unique indexes
(`Consistent.up_of_awaits`): what an attempt that fails there leaves behind is taken up by a later
one.
-/

namespace AccountStore

/-- The migration that creates a table. -/
def Table.creation : Table → Migration
  | users => .createUsers
  | admins => .createAdmins

theorem Migration.mem_all {m : Migration} :
    m ∈ all ↔ (∃ t : Table, m = t.creation) ∨ m = addLiveUnique := by
  simp only [all, List.mem_cons, List.not_mem_nil, or_false]
  constructor
  · rintro (rfl | rfl | rfl)
    · exact Or.inl ⟨.users, rfl⟩
    · exact Or.inl ⟨.admins, rfl⟩
    · exact Or.inr rfl
  · rintro (⟨t, rfl⟩ | rfl)
    · cases t <;> simp [Table.creation]
    · simp

theorem Migration.eq_of_name {m n : Migration} (left : m ∈ all) (right : n ∈ all)
    (same : m.name = n.name) : m = n := by
  have distinct : ∀ m ∈ all, ∀ n ∈ all, m.name = n.name → m = n := by decide
  exact distinct m left n right same

theorem Migration.createLiveUnique_mem_up {t : Table} {c : Column} :
    .createLiveUnique t c ∈ addLiveUnique.up ↔ c ∈ t.liveUnique := by
  cases t <;> simp [addLiveUnique, Table.liveUnique]

/-- The definition adds a table or an index. -/
def Definition.Adds : Definition → Prop
  | createTable _ => True
  | createDeletedIndex _ => True
  | createLiveUnique t c => c ∈ t.liveUnique
  | _ => False

theorem Migration.adds_of_mem_up {m : Migration} (known : m ∈ all) : ∀ d ∈ m.up, d.Adds := by
  rcases mem_all.1 known with ⟨t, rfl⟩ | rfl
  · cases t <;> simp [Table.creation, createUsers, createAdmins, Definition.Adds]
  · simp [addLiveUnique, Definition.Adds, Table.liveUnique]

theorem Migration.createTable_mem_up (t : Table) : .createTable t ∈ t.creation.up := by
  cases t <;> exact List.mem_cons_self

namespace Memory.Database
open TableState

variable {db after : Database} {t : Table} {c : Column} {columns : List Column} {d : Definition}

/-! ## The record -/

def Records (db : Database) (m : Migration) : Prop :=
  m.name ∈ db.applied

def Known (db : Database) : Prop :=
  ∀ name ∈ db.applied, ∃ m ∈ Migration.all, m.name = name

instance (db : Database) (m : Migration) : Decidable (db.Records m) :=
  inferInstanceAs (Decidable (_ ∈ _))

instance (db : Database) : Decidable db.Known :=
  inferInstanceAs (Decidable (∀ name ∈ db.applied, ∃ m ∈ Migration.all, _))

theorem unknownRecorded_eq (db : Database) : db.unknownRecorded = !decide db.Known := by
  rw [Bool.eq_iff_iff, Bool.not_eq_true', decide_eq_false_iff_not]
  simp [unknownRecorded, Known]

theorem isApplied_eq (db : Database) (m : Migration) : db.isApplied m = decide (db.Records m) := by
  rw [Bool.eq_iff_iff, decide_eq_true_iff]
  simp [isApplied, Records]

theorem up_of_unknown (unknown : ¬ db.Known) : db.up = (.error unknownMigration, db) := by
  simp [up, unknownRecorded_eq, unknown]

theorem down_of_unknown (unknown : ¬ db.Known) : db.down = (.error unknownMigration, db) := by
  simp [down, unknownRecorded_eq, unknown]

theorem status_of_unknown (unknown : ¬ db.Known) : db.status = .error unknownMigration := by
  simp [status, unknownRecorded_eq, unknown]

theorem up_of_known (known : db.Known) :
    db.up = db.settle (applyAll (Migration.all.filter fun m => !decide (db.Records m)) db) := by
  simp [up, unknownRecorded_eq, known, isApplied_eq]

theorem up_of_complete (known : db.Known) (complete : ∀ m ∈ Migration.all, db.Records m) :
    db.up = (.ok (), db) := by
  rw [up_of_known known, List.filter_eq_nil_iff.2 fun m member => by simp [complete m member]]
  rfl

/-- Both tables are recorded, and of the known migrations only that of the indexes is not. -/
structure AwaitsIndexes (db : Database) : Prop where
  known : db.Known
  created (t : Table) : db.Records t.creation
  pending : ¬ db.Records .addLiveUnique

theorem AwaitsIndexes.congr (awaits : db.AwaitsIndexes) (same : after.applied = db.applied) :
    after.AwaitsIndexes := by
  obtain ⟨known, created, pending⟩ := awaits
  unfold Known Records at *
  rw [← same] at *
  exact ⟨known, created, pending⟩

theorem AwaitsIndexes.up_eq (awaits : db.AwaitsIndexes) :
    db.up = db.settle (applyAll [.addLiveUnique] db) := by
  have users : db.Records .createUsers := awaits.created .users
  have admins : db.Records .createAdmins := awaits.created .admins
  simp [up_of_known awaits.known, Migration.all, users, admins, awaits.pending]

/-- An attempt that fails leaves what it has done, or nothing. -/
theorem settle_cases (db : Database) (attempt : Except DriverError Unit × Database) :
    db.settle attempt = attempt ∨ ∃ e, attempt.1 = .error e ∧ db.settle attempt = (.error e, db) := by
  obtain ⟨e | _, after⟩ := attempt
  · by_cases transactional : db.backend.transactional = true
    · exact Or.inr ⟨e, rfl, by simp only [settle, if_pos transactional]⟩
    · exact Or.inl (by simp only [settle, if_neg transactional])
  · exact Or.inl rfl

/-! ## Rows and indexes -/

/-- No table goes away, and each has the same rows. -/
structure SameRows (before after : Database) : Prop where
  there : after.dropped ⊆ before.dropped
  rows (t : Table) : (after.accounts.get t).rows = (before.accounts.get t).rows
  next (t : Table) : (after.accounts.get t).next = (before.accounts.get t).next

theorem SameRows.refl (db : Database) : db.SameRows db :=
  ⟨List.Subset.refl _, fun _ => rfl, fun _ => rfl⟩

theorem SameRows.trans {a b c : Database} (ab : a.SameRows b) (bc : b.SameRows c) :
    a.SameRows c where
  there := List.Subset.trans bc.there ab.there
  rows t := (bc.rows t).trans (ab.rows t)
  next t := (bc.next t).trans (ab.next t)

/-- Each table is in order, and one that is not there holds nothing. -/
structure Consistent (db : Database) : Prop where
  tables (t : Table) : (db.accounts.get t).Consistent t
  emptied (t : Table) : t ∈ db.dropped → db.accounts.get t = .empty []

/-- All unique indexes over live rows are there: the users' on the phone number, the admins' on the
phone number and the email. -/
def Indexed (db : Database) : Prop :=
  ∀ t : Table, t.liveUnique ⊆ (db.accounts.get t).liveUnique

/-- No two live users share a phone number, and no two live admins a phone number or an email. -/
def ContactsDistinct (db : Database) : Prop :=
  (db.accounts.users.live.map (· .phoneNumber)).Nodup ∧
    (db.accounts.admins.live.map (· .phoneNumber)).Nodup ∧
      (db.accounts.admins.live.map (· .email)).Nodup

instance (db : Database) : Decidable db.ContactsDistinct :=
  inferInstanceAs (Decidable (_ ∧ _))

theorem Consistent.contactsDistinct_iff (consistent : db.Consistent) :
    db.ContactsDistinct ↔
      ∀ t, ∀ c ∈ Table.liveUnique t, DistinctLive [c] (db.accounts.get t).rows := by
  have nodup (t : Table) (c : Column) (unique : c ∈ t.liveUnique) :=
    nodup_live_iff (consistent.tables t).typed unique
  constructor
  · rintro ⟨users, phones, emails⟩ t c unique
    refine (nodup t c unique).1 ?_
    cases t <;> simp only [Table.liveUnique, List.mem_cons, List.not_mem_nil, or_false] at unique
    · rw [unique]
      exact users
    · rcases unique with rfl | rfl
      · exact phones
      · exact emails
  · intro distinct
    have each (t : Table) (c : Column) (unique : c ∈ t.liveUnique) :=
      (nodup t c unique).2 (distinct t c unique)
    exact ⟨each .users _ (by decide), each .admins _ (by decide), each .admins _ (by decide)⟩

theorem SameRows.contactsDistinct_iff (same : db.SameRows after) :
    after.ContactsDistinct ↔ db.ContactsDistinct := by
  have users : after.accounts.users.rows = db.accounts.users.rows := same.rows .users
  have admins : after.accounts.admins.rows = db.accounts.admins.rows := same.rows .admins
  simp only [ContactsDistinct, live, users, admins]

theorem Consistent.contactsDistinct (consistent : db.Consistent) (indexed : db.Indexed) :
    db.ContactsDistinct :=
  consistent.contactsDistinct_iff.2 fun t _ unique =>
    (consistent.tables t).distinctLive (indexed t unique)

theorem Consistent.set {state : TableState} (consistent : db.Consistent) (own : state.Consistent t)
    (accounts : after.accounts = db.accounts.set t state)
    (empty : t ∈ after.dropped → state = .empty [])
    (others : ∀ u ∈ after.dropped, u ≠ t → u ∈ db.dropped) : after.Consistent where
  tables := by
    rw [accounts]
    exact Accounts.forall_set (P := fun u state => state.Consistent u) own consistent.tables
  emptied u absent := by
    rw [accounts]
    by_cases same : u = t
    · subst same
      rw [Accounts.get_set]
      exact empty absent
    · rw [Accounts.get_set_of_ne same]
      exact consistent.emptied u (others u absent same)

theorem sameRows_setLiveUnique (db : Database) (t : Table) (columns : List Column) :
    db.SameRows (db.setLiveUnique t columns) where
  there := List.Subset.refl _
  rows := Accounts.forall_set (P := fun u state => state.rows = (db.accounts.get u).rows) rfl
    fun _ => rfl
  next := Accounts.forall_set (P := fun u state => state.next = (db.accounts.get u).next) rfl
    fun _ => rfl

/-! ## Up -/

/-- The second database is the first one with more tables or indexes. -/
structure Extends (before after : Database) : Prop extends SameRows before after where
  applied : after.applied = before.applied
  liveUnique (t : Table) :
    (before.accounts.get t).liveUnique ⊆ (after.accounts.get t).liveUnique
  consistent : after.Consistent

/-- What a definition adds is there. -/
def InPlace (db : Database) : Definition → Prop
  | .createTable t => t ∉ db.dropped
  | .createDeletedIndex t => t ∉ db.dropped
  | .createLiveUnique t c => t ∉ db.dropped ∧ c ∈ (db.accounts.get t).liveUnique
  | _ => True

namespace Extends

theorem refl (consistent : db.Consistent) : db.Extends db :=
  ⟨.refl db, rfl, fun _ _ => id, consistent⟩

theorem trans {a b c : Database} (ab : a.Extends b) (bc : b.Extends c) : a.Extends c where
  toSameRows := ab.toSameRows.trans bc.toSameRows
  applied := bc.applied.trans ab.applied
  liveUnique t := List.Subset.trans (ab.liveUnique t) (bc.liveUnique t)
  consistent := bc.consistent

theorem records_iff {m : Migration} (extend : db.Extends after) :
    after.Records m ↔ db.Records m := by
  rw [Records, extend.applied, Records]

theorem inPlace (extend : db.Extends after) (inPlace : db.InPlace d) : after.InPlace d := by
  cases d with
  | createTable t | createDeletedIndex t => exact fun absent => inPlace (extend.there absent)
  | createLiveUnique t c =>
      exact ⟨fun absent => inPlace.1 (extend.there absent), extend.liveUnique t inPlace.2⟩
  | dropTable | dropLiveUnique => trivial

end Extends

theorem Consistent.createLiveUnique (consistent : db.Consistent) (there : t ∉ db.dropped)
    (unique : c ∈ t.liveUnique) (distinct : DistinctLive [c] (db.accounts.get t).rows) :
    db.Extends (db.setLiveUnique t ((db.accounts.get t).liveUnique ++ [c])) where
  toSameRows := sameRows_setLiveUnique ..
  applied := rfl
  liveUnique := Accounts.forall_set
    (P := fun u state => (db.accounts.get u).liveUnique ⊆ state.liveUnique)
    (List.subset_append_left _ _) fun _ _ => id
  consistent := consistent.set ((consistent.tables t).withIndex unique distinct) rfl
    (fun absent => absurd absent there) fun _ absent _ => absent

/-- One definition of a run up, if it can be carried out. -/
theorem Consistent.define (consistent : db.Consistent) (adds : d.Adds)
    (defined : db.define d = .ok after) : db.Extends after ∧ after.InPlace d := by
  cases d with
  | createTable t =>
      simp only [Database.define] at defined
      split at defined
      · cases defined
      · split at defined
        next absent =>
          -- a table that is not there is empty, so that it is created as it is kept
          rw [← consistent.emptied t absent, Accounts.set_get] at defined
          cases defined
          have fewer : db.dropped.filter (· ≠ t) ⊆ db.dropped :=
            fun _ member => (List.mem_filter.1 member).1
          refine ⟨⟨⟨fewer, fun _ => rfl, fun _ => rfl⟩, rfl, fun _ _ => id,
            ⟨consistent.tables, fun u absent => consistent.emptied u (fewer absent)⟩⟩, ?_⟩
          simp [InPlace]
        next there =>
          cases defined
          exact ⟨.refl consistent, there⟩
  | createDeletedIndex t =>
      simp only [Database.define] at defined
      split at defined
      · cases defined
      next there =>
        split at defined
        · cases defined
        · cases defined
          exact ⟨⟨⟨List.Subset.refl _, fun _ => rfl, fun _ => rfl⟩, rfl, fun _ _ => id,
            ⟨consistent.tables, consistent.emptied⟩⟩, there⟩
  | createLiveUnique t c =>
      simp only [Database.define] at defined
      split at defined
      · cases defined
      next there =>
        split at defined
        next present =>
          cases defined
          exact ⟨.refl consistent, there, present⟩
        · split at defined
          next distinct =>
            cases defined
            refine ⟨consistent.createLiveUnique there adds distinct, there, ?_⟩
            simp [setLiveUnique]
          · cases defined
  | dropTable | dropLiveUnique => exact adds.elim

/-- Definitions of a run up: all of them, or up to one that fails. -/
theorem Consistent.defineAll {ds : List Definition} (consistent : db.Consistent)
    (adds : ∀ d ∈ ds, d.Adds) :
    db.Extends (defineAll ds db).2 ∧
      ((Database.defineAll ds db).1 = .ok () → ∀ d ∈ ds, (Database.defineAll ds db).2.InPlace d) := by
  induction ds generalizing db with
  | nil => exact ⟨.refl consistent, fun _ _ => nofun⟩
  | cons d rest ih =>
      simp only [Database.defineAll]
      cases defined : db.define d with
      | error e => exact ⟨.refl consistent, nofun⟩
      | ok next =>
          obtain ⟨extend, inPlace⟩ := consistent.define (adds d List.mem_cons_self) defined
          obtain ⟨more, all⟩ := ih extend.consistent fun d member =>
            adds d (List.mem_cons_of_mem _ member)
          refine ⟨extend.trans more, fun succeeded => ?_⟩
          exact List.forall_mem_cons.2 ⟨more.inPlace inPlace, all succeeded⟩

/-- Where the rows admit every unique index, all of a list are created. -/
theorem Consistent.defineAll_of_distinct {ds : List Definition} (consistent : db.Consistent)
    (there : ∀ t, t ∉ db.dropped)
    (creates : ∀ d ∈ ds, ∃ t, ∃ c ∈ Table.liveUnique t, d = .createLiveUnique t c)
    (distinct : ∀ t, ∀ c ∈ Table.liveUnique t, DistinctLive [c] (db.accounts.get t).rows) :
    (Database.defineAll ds db).1 = .ok () := by
  induction ds generalizing db with
  | nil => rfl
  | cons d rest ih =>
      obtain ⟨t, c, unique, rfl⟩ := creates d List.mem_cons_self
      have defined : ∃ next, db.define (.createLiveUnique t c) = .ok next := by
        simp only [Database.define, if_neg (there t), if_pos (distinct t c unique)]
        split <;> exact ⟨_, rfl⟩
      obtain ⟨next, defined⟩ := defined
      obtain ⟨extend, _⟩ := consistent.define (d := .createLiveUnique t c) unique defined
      simp only [Database.defineAll, defined]
      refine ih extend.consistent (fun t absent => there t (extend.there absent))
        (fun d member => creates d (List.mem_cons_of_mem _ member)) fun u d unique => ?_
      rw [extend.rows]
      exact distinct u d unique

/-- A run up that has only the unique indexes to create. -/
theorem Consistent.up_of_awaits (consistent : db.Consistent) (there : ∀ t, t ∉ db.dropped)
    (awaits : db.AwaitsIndexes) :
    ∃ indexed, db.Extends indexed ∧
      ((db.ContactsDistinct ∧ db.up =
          (.ok (), { indexed with applied := db.applied ++ [Migration.addLiveUnique.name] })) ∨
        (¬ db.ContactsDistinct ∧ ∃ e, db.up = (.error e, indexed))) := by
  have known : Migration.addLiveUnique ∈ Migration.all := by simp [Migration.all]
  obtain ⟨extend, inPlace⟩ := consistent.defineAll (Migration.adds_of_mem_up known)
  have creates : ∀ d ∈ Migration.addLiveUnique.up,
      ∃ t, ∃ c ∈ Table.liveUnique t, d = .createLiveUnique t c := by
    simp [Migration.addLiveUnique, Table.liveUnique]
  have complete := consistent.defineAll_of_distinct there creates
  rw [← consistent.contactsDistinct_iff] at complete
  rw [awaits.up_eq]
  simp only [applyAll]
  generalize Database.defineAll Migration.addLiveUnique.up db = attempt at *
  obtain ⟨_ | _, indexed⟩ := attempt
  case ok =>
    have all : indexed.Indexed := fun t c unique =>
      (inPlace rfl _ (Migration.createLiveUnique_mem_up.2 unique)).2
    have applied : indexed.applied = db.applied := extend.applied
    refine ⟨indexed, extend, Or.inl ⟨?_, by simp only [settle, applied]⟩⟩
    exact extend.contactsDistinct_iff.1 (extend.consistent.contactsDistinct all)
  case error e =>
    have shared : ¬ db.ContactsDistinct := by
      intro distinct
      cases complete distinct
    rcases db.settle_cases (.error e, indexed) with kept | ⟨_, _, undone⟩
    · exact ⟨indexed, extend, Or.inr ⟨shared, e, kept⟩⟩
    · exact ⟨db, .refl consistent, Or.inr ⟨shared, _, undone⟩⟩

/-! ## Down -/

/-- The last of the known migrations that are recorded. -/
def last? (db : Database) : Option Migration :=
  (Migration.all.filter fun m => decide (db.Records m)).getLast?

theorem mem_of_last? {m : Migration} (last : db.last? = some m) :
    m ∈ Migration.all ∧ db.Records m := by
  simpa using List.mem_of_getLast? last

theorem last?_of_records (recorded : db.Records .addLiveUnique) :
    db.last? = some .addLiveUnique := by
  have split : Migration.all = [.createUsers, .createAdmins] ++ [.addLiveUnique] := rfl
  rw [last?, split, List.filter_append]
  simp [recorded]

theorem down_of_known (known : db.Known) :
    db.down = match db.last? with
      | none => (.ok (), db)
      | some m => db.settle (undo m db) := by
  have isApplied : db.isApplied = fun m => decide (db.Records m) := funext db.isApplied_eq
  simp only [down, unknownRecorded_eq, known, decide_true, Bool.not_true, Bool.false_eq_true,
    if_false, isApplied]
  rfl

theorem Consistent.dropLiveUnique (consistent : db.Consistent) (t : Table) (c : Column) :
    (db.setLiveUnique t ((db.accounts.get t).liveUnique.filter (· ≠ c))).Consistent := by
  have fewer : ((db.accounts.get t).liveUnique.filter (· ≠ c)) ⊆
      (db.accounts.get t).liveUnique := fun _ member => (List.mem_filter.1 member).1
  refine consistent.set ((consistent.tables t).withoutIndexes fewer) rfl (fun absent => ?_)
    fun _ absent _ => absent
  rw [consistent.emptied t absent]
  rfl

theorem Consistent.dropAll {ds : List Definition} (consistent : db.Consistent)
    (drops : ∀ d ∈ ds, ∃ t c, d = .dropLiveUnique t c) :
    ∃ after, Database.defineAll ds db = (.ok (), after) ∧ db.SameRows after ∧
      after.applied = db.applied ∧ after.Consistent := by
  induction ds generalizing db with
  | nil => exact ⟨db, rfl, .refl db, rfl, consistent⟩
  | cons d rest ih =>
      obtain ⟨t, c, rfl⟩ := drops d List.mem_cons_self
      obtain ⟨after, defined, same, applied, consistent⟩ :=
        ih (consistent.dropLiveUnique t c) fun d member => drops d (List.mem_cons_of_mem _ member)
      exact ⟨after, defined, (sameRows_setLiveUnique ..).trans same, applied, consistent⟩

/-- What a table's rollback leaves. -/
def withoutTable (db : Database) (t : Table) : Database :=
  { db with
    accounts := db.accounts.set t (.empty [])
    dropped := t :: db.dropped
    markerIndexed := db.markerIndexed.filter (· ≠ t)
    applied := db.applied.filter (· ≠ t.creation.name) }

theorem Consistent.withoutTable (consistent : db.Consistent) (t : Table) :
    (db.withoutTable t).Consistent :=
  consistent.set (consistent_empty (List.nil_subset _)) rfl (fun _ => rfl) fun _ absent other =>
    (List.mem_cons.1 absent).resolve_left other

/-- A run down takes back the indexes, and a table only while they are not recorded. -/
theorem Consistent.down_cases (consistent : db.Consistent) :
    (∃ result, db.down = (result, db)) ∨
      (∃ unindexed, db.SameRows unindexed ∧ unindexed.Consistent ∧
        db.down = (.ok (), { unindexed with
          applied := db.applied.filter (· ≠ Migration.addLiveUnique.name) })) ∨
      (¬ db.Records .addLiveUnique ∧ ∃ t, db.down = (.ok (), db.withoutTable t)) := by
  by_cases known : db.Known
  · rw [down_of_known known]
    cases last : db.last? with
    | none => exact Or.inl ⟨_, rfl⟩
    | some m =>
        rcases Migration.mem_all.1 (mem_of_last? last).1 with ⟨t, rfl⟩ | rfl
        · have pending : ¬ db.Records .addLiveUnique := by
            intro recorded
            rw [last?_of_records recorded] at last
            cases t <;> exact absurd last (by decide)
          have down : t.creation.down = [.dropTable t] := by cases t <;> rfl
          by_cases absent : t ∈ db.dropped
          · left
            simp only [undo, down, Database.defineAll, Database.define, if_pos absent, settle,
              ite_self]
            exact ⟨_, rfl⟩
          · refine Or.inr (Or.inr ⟨pending, t, ?_⟩)
            simp only [undo, down, Database.defineAll, Database.define, if_neg absent, settle]
            rfl
        · right
          left
          have drops : ∀ d ∈ Migration.addLiveUnique.down, ∃ t c, d = .dropLiveUnique t c := by
            simp [Migration.addLiveUnique]
          obtain ⟨unindexed, defined, same, applied, consistent⟩ := consistent.dropAll drops
          refine ⟨unindexed, same, consistent, ?_⟩
          simp only [undo, defined, applied, settle]
  · exact Or.inl ⟨_, down_of_unknown known⟩

end Memory.Database
end AccountStore

import AccountStore.Proofs.Operation.Exchange

/-!
# Updates and deletions of one row

An update and a deletion send a statement on a live row and, if it affects none, look the row up to
say why. `Modification` lists all that can come of this when the tables change between the two
statements; `Program.Modifies.becomes` says that nothing else can.
-/

namespace AccountStore
open Calendar Memory

/-! ## The two statements on a sound table -/

namespace Memory.TableState

variable {t : Table} {state : TableState} {id : String}

theorem hasLive_iff : state.HasLive id ↔
    ∃ row ∈ state.rows, row.satisfiesAll (Statement.liveById id) = true := by
  simp only [HasLive, Row.satisfiesAll_liveById]

theorem Sound.admits_deleted (sound : state.Sound t) (now : Instant) (conditions : List Condition) :
    Admits state.liveUnique (assigned now [(.deletedAt, .currentTime)] conditions state.rows) := by
  rw [sound.indexed]
  refine ⟨distinctIds_assigned (by simp) sound.distinctIds, ?_⟩
  have live : ∀ row : Row, (if row.satisfiesAll conditions then
      row.assign now [(.deletedAt, .currentTime)] else row).isLive = true → row.isLive = true ∧
        row.satisfiesAll conditions = false := by
    intro row h
    split at h
    · exact absurd h nofun
    · rename_i unmatched
      exact ⟨h, Bool.eq_false_iff.2 unmatched⟩
  -- the rows that stay live are as they were
  have distinct := List.pairwise_filter.1 sound.distinctLive
  refine List.pairwise_filter.2 (List.pairwise_map.2 (distinct.imp ?_))
  intro a b distinct aLive bLive
  obtain ⟨aLive, aUnmatched⟩ := live a aLive
  obtain ⟨bLive, bUnmatched⟩ := live b bLive
  simpa only [aUnmatched, bUnmatched, Bool.false_eq_true, if_false] using distinct aLive bLive

/-- What a look-up says of a row that an update or a deletion did not find. -/
def explanation (state : TableState) (id : String) : AccountError :=
  if state.HasLive id then .internal "row changed while being modified"
  else if state.HasDeleted id then .alreadyDeleted
  else .notFound

theorem explanation_eq_notFound : state.explanation id = .notFound ↔ ¬ state.Has id := by
  rw [has_iff, not_or]
  unfold explanation
  split
  · simp [*]
  · split <;> simp [*]

theorem explanation_eq_alreadyDeleted :
    state.explanation id = .alreadyDeleted ↔ ¬ state.HasLive id ∧ state.HasDeleted id := by
  unfold explanation
  split
  · simp [*]
  · split <;> simp [*]

theorem explanation_eq_internal :
    (∃ text, state.explanation id = .internal text) ↔ state.HasLive id := by
  unfold explanation
  split
  · simp [*]
  · split <;> simp [*]

theorem Sound.query_deletionMarker (sound : state.Sound t) (id : String) :
    ∃ rows, state.query (.deletionMarker t id) = (.ok rows, state) ∧
      Store.missing rows = state.explanation id := by
  refine ⟨_, by rw [query, Statement.meaning_deletionMarker], ?_⟩
  simp only [select, Bool.false_eq_true, if_false]
  cases found : state.rows.filter (Row.satisfiesAll [.equals .id (.text (some id))]) with
  | nil =>
      have absent : ¬ state.Has id := by
        rintro ⟨row, member, hid⟩
        exact List.filter_eq_nil_iff.1 found row member (Row.satisfiesAll_byId.2 hid)
      rw [has_iff, not_or] at absent
      rw [explanation, if_neg absent.1, if_neg absent.2]
      rfl
  | cons row rest =>
      have here : row ∈ state.rows.filter (Row.satisfiesAll [.equals .id (.text (some id))]) := by
        rw [found]
        exact List.mem_cons_self
      obtain ⟨member, matched⟩ := List.mem_filter.1 here
      have hid := Row.satisfiesAll_byId.1 matched
      obtain ⟨time, marker⟩ := (sound.typed row member).deletedAt
      have deleted : (Row.project (Statement.deletionMarker t id).table [.deletedAt] row).isDeleted = time.isSome := by
        simp [Row.project, ResultRow.isDeleted, ResultRow.time?, ResultRow.value?, marker,
          Column.name]
      rw [List.map_cons, Store.missing, List.head?_cons]
      dsimp only
      rw [deleted, explanation]
      cases time with
      | none =>
          have isLive : row.isLive = true := by simp [Row.isLive, marker, Value.isNull]
          have live : state.HasLive id := ⟨row, member, hid, isLive⟩
          rw [if_pos live]
          rfl
      | some time =>
          have dead : state.HasDeleted id :=
            ⟨row, member, hid, by simp [Row.isLive, marker, Value.isNull]⟩
          rw [if_neg fun live => sound.not_hasDeleted live dead, if_pos dead]
          rfl

end Memory.TableState

namespace Change

variable {t : Table} {c : Change} {id : String} {s : Statement}

theorem Writes.execute_cases (writes : c.Writes t s) (target : c.modified? = some id)
    {state : TableState} (sound : state.Sound t) (now : Instant) :
    (∃ n after, state.execute now s = (.ok (n + 1), after) ∧ state.HasLive id) ∨
      (state.execute now s = (.ok 0, state) ∧ ¬ state.HasLive id) ∨
      (state.execute now s = (.error TableState.duplicate, state) ∧ state.HasLive id ∧
        c ≠ .deletion id) := by
  obtain ⟨assignments, rfl, marks⟩ := writes.of_modified? target
  have means := Statement.meaning_update_gate t assignments id
  rcases TableState.execute_update now state means with
    ⟨n, after, run, change⟩ | ⟨none, run⟩ | ⟨refused, run⟩
  · exact Or.inl ⟨n, _, run, TableState.hasLive_iff.2 (change.of_update means).1⟩
  · refine Or.inr (Or.inl ⟨run, fun live => ?_⟩)
    obtain ⟨row, member, matched⟩ := TableState.hasLive_iff.1 live
    rw [none row member] at matched
    exact Bool.noConfusion matched
  · refine Or.inr (Or.inr ⟨run, Classical.byContradiction fun absent => refused ?_, ?_⟩)
    · rw [TableState.assigned_of_none]
      · exact sound.admits
      · intro row member
        refine Bool.eq_false_iff.2 fun matched => absent ?_
        exact TableState.hasLive_iff.2 ⟨row, member, matched⟩
    · intro deletion
      rw [marks deletion] at refused
      exact refused (sound.admits_deleted now _)

end Change

/-! ## Their program -/

/-- How far an update or a deletion has come: what it has said to the database and what it has
answered. -/
inductive Modification (t : Table) (c : Change) (id : String) :
    List Exchange → Option (Except AccountError α) → Prop
  | waiting : Modification t c id [] none
  | invalid (r : Rejection) : Modification t c id [] (some (.error (.validation r)))
  | late (operation : String) : Modification t c id [] (some (.error (.timedOut operation)))
  | made {u : Exchange} (a : α) (writes : c.Writes t u.statement)
      (live : (u.before.get t).HasLive id) (accepted : u.refusal? = none) :
      Modification t c id [u] (some (.ok a))
  | refused {u : Exchange} (writes : c.Writes t u.statement) (live : (u.before.get t).HasLive id)
      (refused : u.refusal? = some TableState.duplicate) (other : c ≠ .deletion id) :
      Modification t c id [u] (some (.error (.conflict "Record")))
  | missed {u : Exchange} (writes : c.Writes t u.statement)
      (absent : ¬ (u.before.get t).HasLive id) (accepted : u.refusal? = none)
      (same : u.after = u.before) : Modification t c id [u] none
  | explained {u l : Exchange} (writes : c.Writes t u.statement)
      (absent : ¬ (u.before.get t).HasLive id) (accepted : u.refusal? = none)
      (same : u.after = u.before) (looks : l.statement = .deletionMarker t id) :
      Modification t c id [u, l] (some (.error ((l.before.get t).explanation id)))

namespace Modification

variable {t : Table} {c : Change} {id : String} {own : List Exchange}
  {answer : Option (Except AccountError α)} {u l : Exchange}

theorem ok_iff (outcome : Modification t c id own answer) :
    (∃ a, answer = some (.ok a)) ↔
      ∃ u, own.head? = some u ∧ (u.before.get t).HasLive id ∧ u.refusal? = none := by
  cases outcome <;> simp [*]

theorem of_refused (outcome : Modification t c id own answer) (first : own.head? = some u)
    (refused : u.refusal? ≠ none) :
    own = [u] ∧ c ≠ .deletion id ∧ answer = some (.error (.conflict "Record")) := by
  cases outcome <;> simp_all

theorem of_lookup (outcome : Modification t c id own answer) (both : own = [u, l]) :
    ¬ (u.before.get t).HasLive id ∧ u.after = u.before ∧
      answer = some (.error ((l.before.get t).explanation id)) := by
  cases outcome <;> simp_all

theorem of_absent (outcome : Modification t c id own answer) (first : own.head? = some u)
    (absent : ¬ (u.before.get t).HasLive id) :
    answer = none ∨ ∃ l, own = [u, l] ∧
      answer = some (.error ((l.before.get t).explanation id)) := by
  cases outcome <;> simp_all

/-- An error that says what became of the row comes from the look-up. -/
theorem lookup_of_missing (outcome : Modification t c id own answer) {e : AccountError}
    (failed : answer = some (.error e))
    (missing : e = .notFound ∨ e = .alreadyDeleted ∨ ∃ text, e = .internal text) :
    ∃ u l, own = [u, l] ∧ e = (l.before.get t).explanation id := by
  cases outcome with
  | explained =>
      cases failed
      exact ⟨_, _, rfl, rfl⟩
  | invalid | late | refused =>
      cases failed
      simp at missing
  | waiting | made | missed => exact absurd failed nofun

theorem sends (outcome : Modification t c id own answer) :
    (∀ u, own.head? = some u → c.Writes t u.statement) ∧
      (∀ l ∈ own.tail, l.statement = .deletionMarker t id) ∧ own.length ≤ 2 := by
  cases outcome <;> simp [*]

end Modification

namespace Program

def modification (t : Table) (id : String) (s : Statement) (a : α) : Program α :=
  .execute s (reply fun n =>
    if n = 0 then .query (.deletionMarker t id) (reply fun rows => .fail (Store.missing rows))
    else .pure a)

theorem run_modification_of_made {t : Table} {id : String} {s : Statement} {now : Instant}
    {accounts : Accounts} (table : s.table = t) {n : Nat} {after : TableState}
    (made : (accounts.get t).execute now s = (.ok (n + 1), after)) (done : α) :
    (modification t id s done).run (Accounts.driver now) accounts =
      (.ok done, accounts.set t after) := by
  simp only [modification, Program.run, Accounts.execute_eq table made]
  rfl

def Modifies (t : Table) (c : Change) (id : String) (p : Program α) : Prop :=
  (∃ r, p = .fail (.validation r)) ∨
    ∃ s a, c.Writes t s ∧ (p = modification t id s a ∨ p = .pause (modification t id s a))

variable {t : Table} {c : Change} {id : String} {s : Statement} {p q : Program α}
  {operation : String} {own : List Exchange}

theorem map_modification (f : α → β) (a : α) :
    f <$> modification t id s a = modification t id s (f a) := by
  unfold modification
  rw [map_execute]
  congr 2
  funext n
  split
  · exact map_query f _ _
  · rfl

theorem Modifies.map (modifies : p.Modifies t c id) (f : α → β) : (f <$> p).Modifies t c id := by
  rcases modifies with ⟨r, rfl⟩ | ⟨s, a, writes, rfl | rfl⟩
  · exact Or.inl ⟨r, rfl⟩
  · exact Or.inr ⟨s, f a, writes, Or.inl (map_modification f a)⟩
  · exact Or.inr ⟨s, f a, writes, Or.inr (congrArg pause (map_modification f a))⟩

theorem modification_becomes {a : α} (writes : c.Writes t s) (target : c.modified? = some id)
    (becomes : (modification t id s a).Becomes operation own q)
    (sound : ∀ e ∈ own, e.before.Sound) : Modification t c id own q.answer? := by
  cases becomes with
  | refl => exact .waiting
  | @exchange now accounts _ next _ u later sent rest =>
      simp only [modification, exchange?, Option.some.injEq, Prod.mk.injEq] at sent
      obtain ⟨rfl, rfl⟩ := sent
      have soundTable : (accounts.get t).Sound t := sound _ List.mem_cons_self t
      rcases writes.execute_cases target soundTable now with
        ⟨n, after, run, live⟩ | ⟨run, absent⟩ | ⟨run, live, other⟩
      · rw [Accounts.execute_eq writes.table run] at rest ⊢
        obtain ⟨rfl, rfl⟩ := rest.of_done
        exact .made a writes live rfl
      · rw [Accounts.execute_eq writes.table run, Accounts.set_get] at rest ⊢
        change (query _ _).Becomes operation later q at rest
        cases rest with
        | refl => exact .missed writes absent rfl rfl
        | @exchange _ accounts' _ _ _ l _ sent rest =>
            simp only [exchange?, Option.some.injEq, Prod.mk.injEq] at sent
            obtain ⟨rfl, rfl⟩ := sent
            have soundTable : (accounts'.get t).Sound t :=
              sound _ (List.mem_cons_of_mem _ List.mem_cons_self) t
            obtain ⟨rows, look, explains⟩ := soundTable.query_deletionMarker id
            rw [Accounts.query_eq _ rfl look] at rest ⊢
            obtain ⟨rfl, rfl⟩ := rest.of_done
            rw [explains]
            exact .explained writes absent rfl rfl rfl
      · rw [Accounts.execute_eq writes.table run] at rest ⊢
        obtain ⟨rfl, rfl⟩ := rest.of_done
        exact .refused writes live rfl other

/-- Nothing else can come of an update or a deletion, whatever happens to the tables between its
statements. -/
theorem Modifies.becomes (modifies : p.Modifies t c id) (target : c.modified? = some id)
    (becomes : p.Becomes operation own q) (sound : ∀ e ∈ own, e.before.Sound) :
    Modification t c id own q.answer? := by
  rcases modifies with ⟨r, rfl⟩ | ⟨s, a, writes, rfl | rfl⟩
  · obtain ⟨rfl, rfl⟩ := becomes.of_done
    exact .invalid r
  · exact modification_becomes writes target becomes sound
  · cases becomes with
    | refl => exact .waiting
    | resume rest => exact modification_becomes writes target rest sound
    | expire => exact .late operation
    | exchange _ _ sent => exact absurd sent nofun

end Program

/-! ## The calls that update or delete -/

section Calls

variable {α : Type} [Account α] {stamp : Stamp} {id : String}

theorem Store.modify_eq_modification (t : Table) (id : String) (s : Statement) :
    modify t id s = .modification t id s () := by
  rw [modify_eq]
  rfl

theorem StoreCall.program_delete (id : String) :
    (delete id : StoreCall α).program =
      .modification (Account.table α) id (.softDelete (Account.table α) id) .done := by
  change (fun _ => Answer.done) <$> Store.modify _ _ _ = _
  rw [Store.modify_eq_modification, Program.map_modification]

/-- The statement of an update. -/
def Store.replacement (a : α) : Statement :=
  .update (Account.table α)
    ((cells (Account.table α).updatable a).map fun c => (c.1, .value c.2))
    (Statement.gate (Account.id a))

theorem StoreCall.program_update (a : α) :
    (update a).program = .modification (Account.table α) (Account.id a) (Store.replacement a)
      .done := by
  change (fun _ => Answer.done) <$> Store.update a = _
  rw [Store.update_eq, Store.modify_eq_modification, Program.map_modification]
  rfl

theorem StoreCall.modifies_program {call : StoreCall α} (target : call.change.modified? = some id) :
    call.program.Modifies (Account.table α) call.change id := by
  cases call with
  | update a =>
      cases target
      refine Program.Modifies.map ?_ _
      rw [Store.update_eq, Store.modify_eq_modification]
      exact Or.inr ⟨_, (), rfl, Or.inl rfl⟩
  | delete id =>
      cases target
      rw [program_delete]
      exact Or.inr ⟨_, _, rfl, Or.inl rfl⟩
  | create | createAndFetch | get | list | checkField | ifExists | changePassword
  | updateRefreshToken => exact absurd target nofun

theorem ServiceCall.modifies_program {call : ServiceCall α}
    (target : (call.change stamp).modified? = some id) :
    (call.program stamp).Modifies (Account.table α) (call.change stamp) id := by
  cases call with
  | update a =>
      cases target
      refine Program.Modifies.map ?_ _
      rcases Service.update_cases stamp a with ⟨r, eq⟩ | eq <;> rw [eq]
      · exact Or.inl ⟨r, rfl⟩
      · rw [Store.update_eq, Store.modify_eq_modification]
        exact Or.inr ⟨_, (), rfl, Or.inr rfl⟩
  | delete id =>
      cases target
      exact Or.inr ⟨_, _, rfl, Or.inr (congrArg _ (StoreCall.program_delete id))⟩
  | create | get | list | checkField | ifExists | changePassword | updateRefreshToken =>
      exact absurd target nofun

end Calls

theorem Step.modifies_program {stamp : Stamp} {step : Step} {id : String}
    (target : (step.change stamp).modified? = some id) :
    (step.program stamp).Modifies step.table (step.change stamp) id := by
  cases step with
  | user call =>
      refine Program.Modifies.map ?_ _
      cases call with
      | store call => exact StoreCall.modifies_program target
      | service call => exact ServiceCall.modifies_program target
  | admin call =>
      refine Program.Modifies.map ?_ _
      cases call with
      | store call => exact StoreCall.modifies_program target
      | service call => exact ServiceCall.modifies_program target

end AccountStore

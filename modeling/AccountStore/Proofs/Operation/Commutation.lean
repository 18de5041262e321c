import AccountStore.Proofs.Operation.Modification
import AccountStore.Proofs.Operation.OneTable
import AccountStore.Proofs.Operation.Rotation

/-!
# Calls on an edited table

A program that sends nothing but updates that are independent of an edit, and look-ups of deletion
markers, does not notice the edit (`Unaware.runWithin_edited`): it answers the same, and leaves the
tables as it would have left them, edited. So a rotation commutes with every call whose program is
of that kind (`Step.commute_rotation`).
-/

namespace AccountStore
open Calendar Memory

/-- The order of two operations makes no difference, neither to what they answer nor to what they
leave. -/
structure CommuteAt (state : σ) (f : σ → β × σ) (g : σ → γ × σ) : Prop where
  first : (f (g state).2).1 = (f state).1
  second : (g (f state).2).1 = (g state).1
  final : (f (g state).2).2 = (g (f state).2).2

/-! ## Statements that do not notice an edit -/

/-- An update that is independent of an edit, or the look-up of a deletion marker. -/
def Statement.Unaware (e : Edit) (t : Table) (s : Statement) : Prop :=
  s.table = t ∧
    ((∃ assignments conditions, s.meaning = .update assignments conditions ∧
        ∀ now, e.Independent ⟨now, assignments, conditions⟩) ∨
      ∃ id, s = .deletionMarker t id)

namespace Memory

variable {e : Edit} {t : Table} {s : Statement}

theorem TableState.query_deletionMarker_edited {state : TableState}
    (spares : e.Spares state.liveUnique) (t : Table) (id : String) :
    (state.edited e).query (.deletionMarker t id) =
      ((state.query (.deletionMarker t id)).1, state.edited e) := by
  have reads : ∀ row : Row, (e.apply row).satisfiesAll [.equals .id (.text (some id))] =
      row.satisfiesAll [.equals .id (.text (some id))] :=
    Edit.satisfiesAll_apply fun c written read => by
      obtain ⟨k, member, looked⟩ := read
      rw [List.mem_singleton.1 member] at looked
      rw [List.mem_singleton.1 looked] at written
      exact spares .id (by simp) written
  have shown : ∀ row : Row, (e.apply row).project t [.deletedAt] = row.project t [.deletedAt] :=
    fun row => by
      simp only [Row.project, List.map_cons, List.map_nil,
        Edit.apply_of_not_writes (spares .deletedAt (by simp))]
  have looks (after : TableState) : after.query (.deletionMarker t id) =
      (.ok ((after.rows.filter (Row.satisfiesAll [.equals .id (.text (some id))])).map
        (Row.project t [.deletedAt])), after) := rfl
  simp only [looks, edited, List.filter_map, Function.comp_def, reads, List.map_map, shown]

namespace Accounts

variable {accounts : Accounts}

theorem set_set (accounts : Accounts) (t : Table) (a b : TableState) :
    (accounts.set t a).set t b = accounts.set t b := by
  cases t <;> rfl

theorem ext_get {a b : Accounts} (same : ∀ t, a.get t = b.get t) : a = b := by
  cases a
  cases b
  exact congrArg₂ _ (same .users) (same .admins)

theorem liveUnique_execute (now : Instant) (s : Statement) (accounts : Accounts) (t : Table) :
    (((driver now).execute s accounts).2.get t).liveUnique = (accounts.get t).liveUnique :=
  forall_set (P := fun u state => state.liveUnique = (accounts.get u).liveUnique)
    (TableState.liveUnique_execute _ now s) (fun _ => rfl) t

theorem liveUnique_query (now : Instant) (s : Statement) (accounts : Accounts) (t : Table) :
    (((driver now).query s accounts).2.get t).liveUnique = (accounts.get t).liveUnique :=
  forall_set (P := fun u state => state.liveUnique = (accounts.get u).liveUnique)
    (TableState.liveUnique_query _ s) (fun _ => rfl) t

theorem execute_edited (unaware : s.Unaware e t) (spares : e.Spares (accounts.get t).liveUnique)
    (now : Instant) :
    (driver now).execute s (accounts.edited t e) =
      (((driver now).execute s accounts).1, ((driver now).execute s accounts).2.edited t e) := by
  have same : ((accounts.get t).edited e).execute now s =
      (((accounts.get t).execute now s).1, ((accounts.get t).execute now s).2.edited e) := by
    rcases unaware.2 with ⟨assignments, conditions, means, independent⟩ | ⟨id, rfl⟩
    · exact TableState.execute_edited (f := ⟨now, assignments, conditions⟩) (independent now) spares
        means
    · rfl
  obtain ⟨rfl, _⟩ := unaware
  simp only [driver, execute, edited, get_set, same, set_set]

theorem query_edited (unaware : s.Unaware e t) (spares : e.Spares (accounts.get t).liveUnique)
    (now : Instant) :
    (driver now).query s (accounts.edited t e) =
      (((driver now).query s accounts).1, ((driver now).query s accounts).2.edited t e) := by
  have same : ((accounts.get t).edited e).query s =
      (((accounts.get t).query s).1, ((accounts.get t).query s).2.edited e) := by
    rcases unaware.2 with ⟨assignments, conditions, means, _⟩ | ⟨id, rfl⟩
    · simp only [TableState.query, means]
    · exact TableState.query_deletionMarker_edited spares t id
  obtain ⟨rfl, _⟩ := unaware
  simp only [driver, query, edited, get_set, same, set_set]

end Accounts
end Memory

/-! ## Programs that do not notice an edit -/

namespace Program

def Unaware (e : Edit) (t : Table) : Program α → Prop
  | .done _ => True
  | .execute s next => s.Unaware e t ∧ ∀ answer, (next answer).Unaware e t
  | .query s next => s.Unaware e t ∧ ∀ answer, (next answer).Unaware e t
  | .pause next => next.Unaware e t

variable {e : Edit} {t : Table} {p : Program α} {accounts : Accounts}

theorem Unaware.runWithin_edited (unaware : p.Unaware e t)
    (spares : e.Spares (accounts.get t).liveUnique) (now : Instant) (timing : Timing)
    (operation : String) (elapsed : Nat) :
    p.runWithin (Accounts.driver now) timing operation elapsed (accounts.edited t e) =
      ((p.runWithin (Accounts.driver now) timing operation elapsed accounts).1,
        (p.runWithin (Accounts.driver now) timing operation elapsed accounts).2.edited t e) := by
  induction p generalizing elapsed accounts with
  | done r => rfl
  | execute s next ih =>
      have indexes := Accounts.liveUnique_execute now s accounts t
      simp only [runWithin, Accounts.execute_edited unaware.1 spares]
      exact ih _ (unaware.2 _) (by rwa [indexes]) elapsed
  | query s next ih =>
      have indexes := Accounts.liveUnique_query now s accounts t
      simp only [runWithin, Accounts.query_edited unaware.1 spares]
      exact ih _ (unaware.2 _) (by rwa [indexes]) elapsed
  | pause next ih =>
      simp only [runWithin]
      split
      · rfl
      · exact ih unaware spares _

theorem unaware_reply {next : β → Program α} (unaware : ∀ b, (next b).Unaware e t)
    (answer : Except DriverError β) : (reply next answer).Unaware e t := by
  cases answer with
  | ok b => exact unaware b
  | error cause => trivial

theorem unaware_modification {id : String} {s : Statement} (unaware : s.Unaware e t)
    (a : α) : (modification t id s a).Unaware e t := by
  refine ⟨unaware, unaware_reply fun n => ?_⟩
  split
  · exact ⟨⟨rfl, Or.inr ⟨id, rfl⟩⟩, unaware_reply fun _ => trivial⟩
  · trivial

end Program

/-! ## Changes that leave a refresh token alone -/

/-- An update, a change of passwords, or a new refresh token for another account. -/
def Change.SparesToken (id : String) : Change → Prop
  | replacement _ _ => True
  | .password _ _ => True
  | .refreshToken other _ => other ≠ id
  | _ => False

theorem Rotation.independent_refreshToken {f : Edit} {id : String} (token : String) (now : Instant)
    (reads : ¬ f.Reads .refreshToken) (identity : ¬ f.Writes .id) (marker : ¬ f.Writes .deletedAt)
    (apart : ¬ f.Writes .refreshToken ∨
      ∀ row : Row, row .id = .text (some id) → row.satisfiesAll f.conditions = false) :
    ((refreshToken id token).edit now).Independent f where
  left c written := by
    rw [writes_edit.1 written]
    exact reads
  right c written read := by
    rcases reads_edit.1 read with looked | rfl
    · rw [List.mem_singleton.1 looked] at written
      exact identity written
    · exact marker written
  apart := by
    refine apart.imp (fun unwritten c written => ?_) fun others row matched => others row ?_
    · rw [writes_edit.1 written]
      exact unwritten
    · exact (Row.satisfiesAll_liveById.1 matched).1

namespace Change

variable {t : Table} {c : Change} {id : String}

/-- What such a change reads and writes has nothing to do with the refresh token. -/
theorem SparesToken.unaware (spares : c.SparesToken id) (lawful : c.Lawful t) {s : Statement}
    (writes : c.Writes t s) (token : String) (now : Instant) :
    s.Unaware ((Rotation.refreshToken id token).edit now) t := by
  cases c with
  | nothing | insertion | deletion => exact spares.elim
  | replacement other cells =>
      obtain rfl := writes
      refine ⟨rfl, Or.inl ⟨_, _, Statement.meaning_update_gate _ _ _, fun later => ?_⟩⟩
      have updatable : ∀ column,
          Edit.Writes ⟨later, cells.map fun c => (c.1, .value c.2), Statement.liveById other⟩
            column → column ∈ t.updatable := by
        rintro _ ⟨a, member, rfl⟩
        obtain ⟨cell, there, rfl⟩ := List.mem_map.1 member
        exact (lawful cell there).1
      refine Rotation.independent_refreshToken token now ?_ ?_ ?_ (Or.inl ?_)
      · simp [Edit.Reads, Statement.liveById, Condition.columns]
      all_goals exact fun written => absurd (updatable _ written) (by cases t <;> decide)
  | password predicate new =>
      obtain rfl := writes
      refine ⟨rfl, Or.inl ⟨_, _, rfl, fun later => ?_⟩⟩
      refine Rotation.independent_refreshToken token now ?_ ?_ ?_ (Or.inl ?_)
      · simp [Edit.Reads, Condition.columns]
      all_goals simp [Edit.Writes]
  | refreshToken other new =>
      obtain rfl := writes
      refine ⟨rfl, Or.inl ⟨_, _, rfl, fun later => ?_⟩⟩
      refine Rotation.independent_refreshToken token now ?_ ?_ ?_ (Or.inr fun row same => ?_)
      · simp [Edit.Reads, Statement.liveById, Condition.columns]
      · simp [Edit.Writes]
      · simp [Edit.Writes]
      · refine Bool.eq_false_iff.2 fun matched => spares ?_
        have both := (Row.satisfiesAll_liveById.1 matched).1.symm.trans same
        simpa using both

end Change

/-! ## Steps -/

namespace Step

variable {x y : Step} {stamp sx sy : Stamp} {id token : String} {accounts : Accounts}

theorem unaware_program (spares : (y.change stamp).SparesToken id) (token : String)
    (now : Instant) :
    (y.program stamp).Unaware ((Rotation.refreshToken id token).edit now) y.table := by
  have sends : ∀ s, (y.change stamp).Writes y.table s →
      s.Unaware ((Rotation.refreshToken id token).edit now) y.table :=
    fun s writes => spares.unaware (y.lawful_change stamp) writes token now
  have rotating : ∀ r, (y.change stamp).rotation? = some r →
      (y.program stamp).Unaware ((Rotation.refreshToken id token).edit now) y.table := by
    intro r rotation
    have statement := sends _ ((Rotation.writes_iff rotation).2 rfl)
    rcases rotates_program rotation with same | same <;> rw [same]
    · exact ⟨statement, Program.unaware_reply fun _ => trivial⟩
    · exact ⟨statement, Program.unaware_reply fun _ => trivial⟩
  cases change : y.change stamp with
  | nothing | insertion | deletion =>
      rw [change] at spares
      exact spares.elim
  | replacement other cells =>
      have target : (y.change stamp).modified? = some other := congrArg Change.modified? change
      rcases modifies_program target with ⟨r, same⟩ | ⟨s, a, writes, same | same⟩ <;> rw [same]
      · trivial
      · exact Program.unaware_modification (sends s writes) a
      · exact Program.unaware_modification (sends s writes) a
  | password | refreshToken => exact rotating _ (congrArg Change.rotation? change)

/-- Alone a rotation edits its table, or it is late and does nothing. -/
theorem run_rotation {r : Rotation} (rotation : (x.change stamp).rotation? = some r)
    (timing : Timing) :
    (∀ (driver : Driver Accounts) accounts, x.run driver timing stamp accounts =
        (.error (.timedOut x.operation), accounts)) ∨
      ∀ now (accounts : Accounts), accounts.Sound → x.run (Accounts.driver now) timing stamp
        accounts = (.ok (.truth x.table (decide (∃ row ∈ (accounts.get x.table).rows, r.Hits row))),
          accounts.edited x.table (r.edit now)) := by
  refine ((rotates_program rotation).runWithin (x.timing timing) x.operation).imp
    (fun late driver accounts => ?_) fun inTime now accounts sound => ?_
  · rw [run_eq, late]
  · rw [run_eq, inTime, Program.run_rotating r sound]

/-- What a step that spares the token leaves is the tables as they were, or independently edited. -/
theorem run_cases_of_sparesToken (spares : (y.change stamp).SparesToken id) (token : String)
    (timing : Timing) (now later : Instant) (accounts : Accounts) :
    let after := (y.run (Accounts.driver now) timing stamp accounts).2
    after = accounts ∨ ∃ f, ((Rotation.refreshToken id token).edit later).Independent f ∧
      after = accounts.edited y.table f := by
  intro after
  rcases y.run_cases timing now stamp accounts with
    ⟨same, _⟩ | ⟨⟨s, state, writes, change, same⟩, _⟩
  · exact Or.inl same
  · right
    rcases (spares.unaware (y.lawful_change stamp) writes token later).2 with
      ⟨assignments, conditions, means, independent⟩ | ⟨id, rfl⟩
    · obtain ⟨_, rfl⟩ := change.of_update means
      exact ⟨⟨now, assignments, conditions⟩, independent now, same⟩
    · exact nomatch change

/-- A step that spares the token does the same after a rotation as before it. -/
theorem run_edited (spares : (y.change stamp).SparesToken id) (token : String)
    (sound : accounts.Sound) (timing : Timing) (now earlier : Instant) :
    y.run (Accounts.driver now) timing stamp
        (accounts.edited y.table ((Rotation.refreshToken id token).edit earlier)) =
      ((y.run (Accounts.driver now) timing stamp accounts).1,
        (y.run (Accounts.driver now) timing stamp accounts).2.edited y.table
          ((Rotation.refreshToken id token).edit earlier)) := by
  have apart : ((Rotation.refreshToken id token).edit earlier).Spares
      (accounts.get y.table).liveUnique := by
    rw [(sound y.table).indexed]
    exact (Rotation.refreshToken id token).spares_edit y.table earlier
  rw [run_eq, run_eq]
  exact (unaware_program spares token earlier).runWithin_edited apart now _ _ 0

theorem exists_hits_run (spares : (y.change stamp).SparesToken id) (token : String)
    (timing : Timing) (now : Instant) (accounts : Accounts) :
    let after := (y.run (Accounts.driver now) timing stamp accounts).2
    (∃ row ∈ (after.get y.table).rows, (Rotation.refreshToken id token).Hits row) ↔
      ∃ row ∈ (accounts.get y.table).rows, (Rotation.refreshToken id token).Hits row := by
  intro after
  rcases run_cases_of_sparesToken spares token timing now now accounts with
    same | ⟨f, independent, same⟩
  · rw [show after = accounts from same]
  · have kept : ∀ row, (Rotation.refreshToken id token).Hits (f.apply row) ↔
        (Rotation.refreshToken id token).Hits row := fun row =>
      iff_of_eq (congrArg (· = true) (Edit.satisfiesAll_apply independent.right row))
    rw [show after = _ from same, Accounts.edited, Accounts.get_set, TableState.edited]
    simp only [List.mem_map, exists_exists_and_eq_and, kept]

theorem commute_of_table_ne (other : y.table ≠ x.table) (accounts : Accounts) (tx ty : Timing)
    (nx ny : Instant) :
    CommuteAt accounts (x.run (Accounts.driver nx) tx sx) (y.run (Accounts.driver ny) ty sy) := by
  have afterY := x.run_at (y.run_get_of_ne other.symm ty ny sy accounts) tx nx sx
  have afterX := y.run_at (x.run_get_of_ne other tx nx sx accounts) ty ny sy
  refine ⟨afterY.1, afterX.1, Accounts.ext_get fun t => ?_⟩
  by_cases own : t = x.table
  · subst own
    rw [y.run_get_of_ne other.symm]
    exact afterY.2
  · by_cases own' : t = y.table
    · subst own'
      rw [x.run_get_of_ne other]
      exact afterX.2.symm
    · rw [x.run_get_of_ne own, y.run_get_of_ne own', y.run_get_of_ne own', x.run_get_of_ne own]

/-- A new refresh token commutes with every step that spares it. -/
theorem commute_rotation (rotates : x.change sx = .refreshToken id token)
    (spares : y.table = x.table → (y.change sy).SparesToken id) (sound : accounts.Sound)
    (tx ty : Timing) (nx ny : Instant) :
    CommuteAt accounts (x.run (Accounts.driver nx) tx sx) (y.run (Accounts.driver ny) ty sy) := by
  have rotation : (x.change sx).rotation? = some (.refreshToken id token) :=
    congrArg Change.rotation? rotates
  by_cases table : y.table = x.table
  · rcases run_rotation rotation tx with late | inTime
    · refine ⟨?_, ?_, ?_⟩ <;> simp only [late]
    · have spares := spares table
      have first := inTime nx accounts sound
      have second := inTime nx _ (y.sound_run sound ty ny sy)
      have hits := exists_hits_run spares token ty ny accounts
      have edited := run_edited spares token sound ty ny nx
      rw [table] at hits edited
      refine ⟨?_, ?_, ?_⟩
      · simp only [first, second, hits]
      · rw [first, edited]
      · rw [first, second, edited]
  · exact commute_of_table_ne table accounts tx ty nx ny

end Step

end AccountStore

import AccountStore.Proofs.Account.Lawful
import AccountStore.Proofs.Table.Change
import AccountStore.Service

/-!
# The change that a call may make

Every call has at most one way to change a table, and `Step.change` reads it off the call. The
statements that make a change are lawful, whatever the account, the contact details and the time.
-/

namespace AccountStore
open Memory

theorem Statement.meaning_update_gate (t : Table) (assignments : List (Column × Assigned))
    (id : String) :
    (Statement.update t assignments (gate id)).meaning = .update assignments (liveById id) := rfl

theorem Statement.meaning_deletionMarker (t : Table) (id : String) :
    (deletionMarker t id).meaning =
      .select [.deletedAt] [.equals .id (.text (some id))] false none := rfl

def Filter.condition (f : Filter) : Condition :=
  f.clause.condition

theorem Statement.meaning_list (t : Table) (filters : List Filter) (page : Pagination) :
    (list t filters page).meaning =
      .select t.projection (.live :: filters.map (·.condition)) true page.window? := by
  have conditions : (filters.map (·.clause)).map (·.condition) = filters.map (·.condition) :=
    List.map_map
  simp only [list, meaning, List.map_cons, conditions]
  rfl

theorem Statement.live_mem_liveById (id : String) : .live ∈ liveById id :=
  List.mem_cons_of_mem _ List.mem_cons_self

theorem Statement.live_mem_matching (predicate : ContactPredicate) :
    Condition.live ∈ [.contact predicate, .live] :=
  List.mem_cons_of_mem _ List.mem_cons_self

inductive Change where
  | nothing
  /-- A new row with an identifier. -/
  | insertion (id : String) (cells : List (Column × Value))
  /-- New values for one live row. -/
  | replacement (id : String) (cells : List (Column × Value))
  | deletion (id : String)
  | password (predicate : ContactPredicate) (password : String)
  | refreshToken (id token : String)

namespace Change

def Writes (t : Table) : Change → Statement → Prop
  | nothing, _ => False
  | insertion _ cells, s => ∃ returning, s = .insert t cells returning
  | replacement id cells, s =>
      s = .update t (cells.map fun c => (c.1, .value c.2)) (Statement.gate id)
  | deletion id, s => s = .softDelete t id
  | .password predicate new, s => s = .setPassword t predicate new
  | .refreshToken id token, s => s = .setRefreshToken t id token

/-- The identifier that must not be a deleted row's, lest the deletion shows. -/
def target? : Change → Option String
  | insertion id _ => some id
  | replacement id _ => some id
  | deletion id => some id
  | _ => none

/-- The identifier of the live row that an update or a deletion is about. -/
def modified? : Change → Option String
  | replacement id _ => some id
  | deletion id => some id
  | _ => none

def Lawful (t : Table) : Change → Prop
  | insertion id cells =>
      ∀ n, (Row.ofCells n cells).New t ∧ Row.ofCells n cells .id = .text (some id)
  | replacement _ cells => ∀ cell ∈ cells, cell.1 ∈ t.updatable ∧ cell.1.Holds cell.2.stored
  | _ => True

theorem Writes.table {t : Table} {c : Change} {s : Statement} (writes : c.Writes t s) :
    s.table = t := by
  cases c with
  | nothing => exact writes.elim
  | insertion =>
      obtain ⟨_, rfl⟩ := writes
      rfl
  | replacement | deletion | password | refreshToken =>
      cases writes
      rfl

theorem Writes.of_modified? {t : Table} {c : Change} {s : Statement} {id : String}
    (writes : c.Writes t s) (target : c.modified? = some id) :
    ∃ assignments, s = .update t assignments (Statement.gate id) ∧
      (c = .deletion id → assignments = [(.deletedAt, .currentTime)]) := by
  cases c with
  | replacement | deletion =>
      cases target
      exact ⟨_, writes, by simp⟩
  | nothing | insertion | password | refreshToken => exact absurd target nofun

theorem Writes.lawful {t : Table} {c : Change} {s : Statement} (lawful : c.Lawful t)
    (writes : c.Writes t s) : s.Lawful t := by
  cases c with
  | nothing => exact writes.elim
  | insertion id cells =>
      obtain ⟨_, rfl⟩ := writes
      exact ⟨rfl, fun n => (lawful n).1⟩
  | replacement id cells =>
      cases writes
      refine ⟨rfl, Statement.live_mem_liveById id, fun a member => ?_⟩
      obtain ⟨cell, there, rfl⟩ := List.mem_map.1 member
      obtain ⟨updatable, holds⟩ := lawful cell there
      refine ⟨?_, fun _ => holds⟩
      have fixed : ∀ c ∈ t.updatable, c ∉ [Column.id, .ordinal, .createdAt] := by
        cases t <;> decide
      exact fixed _ updatable
  | deletion id =>
      cases writes
      refine ⟨rfl, Statement.live_mem_liveById id, fun a member => ?_⟩
      rw [List.mem_singleton.1 member]
      exact ⟨by simp, fun now => ⟨some now, rfl⟩⟩
  | password predicate new =>
      cases writes
      refine ⟨rfl, Statement.live_mem_matching predicate, fun a member => ?_⟩
      rw [List.mem_singleton.1 member]
      exact ⟨by simp, fun _ => ⟨new, rfl⟩⟩
  | refreshToken id token =>
      cases writes
      refine ⟨rfl, Statement.live_mem_liveById id, fun a member => ?_⟩
      rw [List.mem_singleton.1 member]
      exact ⟨by simp, fun _ => ⟨token, rfl⟩⟩

end Change

/-! ## The cells of an account -/

namespace Store

variable {α : Type} [Account α]

theorem find_cells {columns : List Column} {c : Column} (member : c ∈ columns) (a : α) :
    (cells columns a).find? (fun cell => cell.1 = c) = some (c, Account.cell a c) := by
  induction columns with
  | nil => simp at member
  | cons d rest ih =>
      unfold cells at ih ⊢
      rw [List.map_cons, List.find?_cons]
      by_cases same : d = c
      · simp only [same, decide_true]
      · have later : c ∈ rest := (List.mem_cons.1 member).resolve_left fun h => same h.symm
        simp only [same, decide_false, ih later]

theorem find_cells_eq_none {columns : List Column} {c : Column} (missing : c ∉ columns) (a : α) :
    (cells columns a).find? (fun cell => cell.1 = c) = none := by
  refine List.find?_eq_none.2 fun cell member => ?_
  obtain ⟨d, there, rfl⟩ := List.mem_map.1 member
  have : d ≠ c := fun same => missing (same ▸ there)
  simpa using this

theorem ofCells_cells {t : Table} {c : Column} (member : c ∈ t.insertable) (n : Nat) (a : α) :
    Row.ofCells n (cells t.insertable a) c = (Account.cell a c).stored := by
  have notOrdinal : c ≠ .ordinal := by
    rintro rfl
    revert member
    cases t <;> decide
  simp [Row.ofCells, notOrdinal, find_cells member]

theorem ofCells_cells_absent {t : Table} {c : Column} (missing : c ∉ t.insertable)
    (notOrdinal : c ≠ .ordinal) (n : Nat) (a : α) :
    Row.ofCells n (cells t.insertable a) c = Row.absent c := by
  simp [Row.ofCells, notOrdinal, find_cells_eq_none missing]

theorem assign_cells {columns : List Column} {c : Column} (member : c ∈ columns) (a : α)
    (now : Calendar.Instant) (row : Row) :
    row.assign now ((cells columns a).map fun cell => (cell.1, .value cell.2)) c =
      (Account.cell a c).stored := by
  have found : ((cells columns a).map fun cell => (cell.1, Assigned.value cell.2)).find?
      (fun b => b.1 = c) = some (c, .value (Account.cell a c)) := by
    rw [List.find?_map]
    show ((cells columns a).find? fun cell => cell.1 = c).map _ = _
    rw [find_cells member]
    rfl
  simp only [Row.assign, found]

theorem assign_of_notMem {columns : List Column} {c : Column} (missing : c ∉ columns) {a : α}
    {now : Calendar.Instant} {row : Row} :
    row.assign now ((cells columns a).map fun cell => (cell.1, .value cell.2)) c = row c := by
  refine Row.assign_of_notMem (fun b there same => missing ?_) row
  obtain ⟨cell, member, rfl⟩ := List.mem_map.1 there
  obtain ⟨d, column, rfl⟩ := List.mem_map.1 member
  exact same ▸ column

variable [Account.Lawful α]

theorem new_ofCells (n : Nat) (a : α) :
    (Row.ofCells n (cells (Account.table α).insertable a)).New (Account.table α) := by
  have deletedAt : Row.ofCells n (cells (Account.table α).insertable a) .deletedAt =
      .timestamp none :=
    ofCells_cells_absent (by cases Account.table α <;> decide) (by decide) n a
  have updatedAt : Row.ofCells n (cells (Account.table α).insertable a) .updatedAt =
      .timestamp none :=
    ofCells_cells_absent (by cases Account.table α <;> decide) (by decide) n a
  refine ⟨fun c member => ?_, deletedAt, updatedAt⟩
  by_cases ordinal : c = .ordinal
  · subst ordinal
    exact ⟨n, rfl⟩
  by_cases insertable : c ∈ (Account.table α).insertable
  · rw [ofCells_cells insertable]
    exact Account.Lawful.holds_cell a c (List.mem_filter.1 insertable).1
  · have rest : ∀ c ∈ (Account.table α).columns, c ≠ .ordinal → c ∉ (Account.table α).insertable →
        c = .updatedAt ∨ c = .deletedAt := by
      cases Account.table α <;> decide
    rcases rest c member ordinal insertable with rfl | rfl
    · exact ⟨.epoch, updatedAt⟩
    · exact ⟨none, deletedAt⟩

theorem lawful_insertion (a : α) :
    (Change.insertion (Account.id a) (cells (Account.table α).insertable a)).Lawful
      (Account.table α) := by
  refine fun n => ⟨new_ofCells n a, ?_⟩
  rw [ofCells_cells (by cases Account.table α <;> decide), Account.Lawful.cell_id]
  rfl

theorem lawful_replacement (a : α) :
    (Change.replacement (Account.id a) (cells (Account.table α).updatable a)).Lawful
      (Account.table α) := by
  intro cell member
  obtain ⟨c, updatable, rfl⟩ := List.mem_map.1 member
  exact ⟨updatable, Account.Lawful.holds_cell a c (List.mem_filter.1 updatable).1⟩

end Store

/-! ## Calls -/

section Calls

variable {α : Type} [Account α]

def StoreCall.change : StoreCall α → Change
  | .create a => .insertion (Account.id a) (Store.cells (Account.table α).insertable a)
  | .createAndFetch a => .insertion (Account.id a) (Store.cells (Account.table α).insertable a)
  | .update a => .replacement (Account.id a) (Store.cells (Account.table α).updatable a)
  | .delete id => .deletion id
  | .changePassword contact password =>
      .password (Account.predicate (Account.reset contact)) password
  | .updateRefreshToken id token => .refreshToken id token
  | _ => .nothing

/-- A service fills accounts in before it writes them. -/
def ServiceCall.change (stamp : Stamp) : ServiceCall α → Change
  | .create a => (StoreCall.create (Account.assignIdentity stamp a)).change
  | .update a => (StoreCall.update (Account.touch stamp.now a)).change
  | .delete id => .deletion id
  | .changePassword contact password =>
      .password (Account.predicate (Account.reset contact)) password
  | .updateRefreshToken id token => .refreshToken id token
  | _ => .nothing

def Call.change (stamp : Stamp) : Call α → Change
  | .store call => call.change
  | .service call => call.change stamp

variable [Account.Lawful α]

theorem StoreCall.lawful_change (call : StoreCall α) : call.change.Lawful (Account.table α) := by
  cases call
  case create a => exact Store.lawful_insertion a
  case createAndFetch a => exact Store.lawful_insertion a
  case update a => exact Store.lawful_replacement a
  all_goals trivial

theorem ServiceCall.lawful_change (stamp : Stamp) (call : ServiceCall α) :
    (call.change stamp).Lawful (Account.table α) := by
  cases call
  case create a => exact Store.lawful_insertion _
  case update a => exact Store.lawful_replacement _
  all_goals trivial

theorem Call.lawful_change (stamp : Stamp) (call : Call α) :
    (call.change stamp).Lawful (Account.table α) := by
  cases call with
  | store call => exact call.lawful_change
  | service call => exact call.lawful_change stamp

end Calls

namespace Step

def table : Step → Table
  | user _ => .users
  | admin _ => .admins

def change (stamp : Stamp) : Step → Change
  | user call => call.change stamp
  | admin call => call.change stamp

/-- The cells that a step inserts into a table. -/
def insertion? (t : Table) (stamp : Stamp) (step : Step) : Option (List (Column × Value)) :=
  if step.table = t then
    match step.change stamp with
    | .insertion _ cells => some cells
    | _ => none
  else none

theorem insertion?_eq_some {t : Table} {stamp : Stamp} {step : Step}
    {cells : List (Column × Value)} : step.insertion? t stamp = some cells ↔
      step.table = t ∧ ∃ id, step.change stamp = .insertion id cells := by
  unfold insertion?
  by_cases table : step.table = t
  · rw [if_pos table]
    cases step.change stamp <;> simp [table]
  · simp [table]

theorem lawful_change (stamp : Stamp) (step : Step) : (step.change stamp).Lawful step.table := by
  cases step with
  | user call => exact call.lawful_change stamp
  | admin call => exact call.lawful_change stamp

end Step
end AccountStore

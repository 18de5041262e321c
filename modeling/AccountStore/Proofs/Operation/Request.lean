import AccountStore.Proofs.Account.Field
import AccountStore.Proofs.Account.Reading
import AccountStore.Proofs.Operation.Rotation

/-!
# Requests

What both layers can be asked in the same words, and what sound tables answer. A service passes a
request on after one pause, so that in time both layers say the same (`Request.run_eq`). A read
answers from the rows that satisfy its conditions, in their order; a password reset always takes
place.
-/

namespace AccountStore
open Calendar Memory

/-! ## Both layers -/

inductive Request (α : Type) [Account α] where
  | get (id : String)
  | list (page : Pagination) (filters : List Filter)
  | checkField (field : Field (Account.table α)) (value : String)
  | ifExists (lookup : Account.Lookup α)
  | changePassword (contact : Account.Contact α) (password : String)

inductive Layer where
  | store
  | service

/-- A service has the time for a pause; the store makes none. -/
def Layer.InTime (layer : Layer) (timing : Timing) : Prop :=
  layer = .service → timing.pause ≤ timing.limit

/-- The accounts that a listing answers. -/
def Answer.listed {α : Type} : Except AccountError (Answer α) → List α
  | .ok (.accounts found) => found
  | _ => []

namespace Request

variable {α : Type} [Account α]

def onStore : Request α → StoreCall α
  | get id => .get id
  | list page filters => .list page filters
  | checkField field value => .checkField field value
  | ifExists lookup => .ifExists lookup
  | changePassword contact password => .changePassword contact password

def onService : Request α → ServiceCall α
  | get id => .get id
  | list page filters => .list page filters
  | checkField field value => .checkField field.name value
  | ifExists lookup => .ifExists lookup
  | changePassword contact password => .changePassword contact password

def call (request : Request α) : Layer → Call α
  | .store => .store request.onStore
  | .service => .service request.onService

/-- What a layer makes of a request, at a time of the database. -/
def run (layer : Layer) (timing : Timing) (now : Instant) (stamp : Stamp) (request : Request α)
    (accounts : Accounts) : Except AccountError (Answer α) × Accounts :=
  (request.call layer).run (Accounts.driver now) timing stamp accounts

def answer (layer : Layer) (timing : Timing) (now : Instant) (stamp : Stamp) (accounts : Accounts)
    (request : Request α) : Except AccountError (Answer α) :=
  (request.run layer timing now stamp accounts).1

theorem program_onService (request : Request α) (stamp : Stamp) :
    request.onService.program stamp = .pause request.onStore.program := by
  cases request with
  | checkField field value =>
      change Answer.truth <$> Service.checkField _ field.name value = _
      unfold Service.checkField
      rw [field.ofName?_name]
      rfl
  | get | list | ifExists | changePassword => rfl

theorem run_call (request : Request α) {layer : Layer} {timing : Timing}
    (inTime : layer.InTime timing) (driver : Driver σ) (stamp : Stamp) (state : σ) :
    (request.call layer).run driver timing stamp state =
      request.onStore.program.run driver state := by
  cases layer with
  | store => rfl
  | service =>
      change (request.onService.program stamp).runWithin _ _ _ _ _ = _
      rw [program_onService, request.onStore.untimed_program.runWithin_pause,
        if_neg (Nat.not_lt.2 (inTime rfl))]

theorem run_eq (request : Request α) {layer : Layer} {timing : Timing}
    (inTime : layer.InTime timing) (now : Instant) (stamp : Stamp) (accounts : Accounts) :
    request.run layer timing now stamp accounts =
      request.onStore.program.run (Accounts.driver now) accounts :=
  request.run_call inTime (Accounts.driver now) stamp accounts

end Request

/-! ## Rows that reads find -/

/-- The part of the rows that the page shows. -/
def Pagination.cut (page : Pagination) (rows : List β) : List β :=
  if page.limit = 0 then rows else (rows.drop page.offset.toNat).take page.limit.toNat

theorem Pagination.cut_sublist (page : Pagination) (rows : List β) :
    (page.cut rows).Sublist rows := by
  unfold cut
  split
  · exact .refl rows
  · exact (List.take_sublist _ _).trans (List.drop_sublist _ _)

@[simp] theorem Pagination.cut_unlimited (rows : List β) : unlimited.cut rows = rows := rfl

theorem Pagination.cut_of_limited {page : Pagination} (limited : 0 < page.limit) (rows : List β) :
    page.cut rows = (rows.drop page.offset.toNat).take page.limit.toNat :=
  if_neg fun unlimited => absurd (unlimited ▸ limited) (by decide)

namespace Memory.TableState

variable {t : Table} {state : TableState}

/-- The live rows that satisfy all filters. -/
def listed (state : TableState) (filters : List Filter) : List Row :=
  state.rows.filter (Row.satisfiesAll (.live :: filters.map (·.condition)))

/-- The rows that a listing without limit shows. -/
def inOrder (state : TableState) (filters : List Filter) : List Row :=
  sorted (fun a b => a.ordinal ≤ b.ordinal) (state.listed filters)

theorem query_list (state : TableState) (t : Table) (filters : List Filter) (page : Pagination) :
    state.query (.list t filters page) =
      (.ok ((page.cut (state.inOrder filters)).map (Row.project t t.projection)), state) := by
  simp only [query, Statement.meaning_list, select, if_true, Pagination.window?, Pagination.cut,
    inOrder, listed]
  by_cases all : page.limit = 0
  · simp only [if_pos all]
    rfl
  · simp only [if_neg all]
    rfl

theorem Sound.inOrder_eq (sound : state.Sound t) (filters : List Filter) :
    state.inOrder filters = state.listed filters :=
  sorted_eq_self ((sound.ordered.filter _).imp fun lt => decide_eq_true (Int.le_of_lt lt))

theorem Sound.query_list (sound : state.Sound t) (filters : List Filter) (page : Pagination) :
    state.query (.list t filters page) =
      (.ok ((page.cut (state.listed filters)).map (Row.project t t.projection)), state) := by
  rw [state.query_list, sound.inOrder_eq]

theorem listed_byId (state : TableState) (id : String) :
    state.listed [.byId id] = state.live.filter fun row => (row .id).same (.text (some id)) := by
  rw [live, List.filter_filter]
  refine List.filter_congr fun row _ => ?_
  simp [Row.satisfiesAll, Row.satisfies, Filter.condition, Filter.clause, Clause.condition,
    Bool.and_comm]

theorem Sound.length_listed_byId (sound : state.Sound t) (id : String) :
    (state.listed [.byId id]).length ≤ 1 := by
  have found : ∀ row ∈ state.listed [.byId id], row .id = .text (some id) := by
    intro row member
    rw [listed_byId] at member
    exact Value.same_text.1 (List.mem_filter.1 member).2
  have distinct : ((state.listed [.byId id]).map (· .id)).Nodup :=
    sound.nodup_ids.sublist (List.filter_sublist.map _)
  match rows : state.listed [.byId id] with
  | [] | [_] => simp
  | a :: b :: rest =>
      rw [rows] at found distinct
      simp [found] at distinct

theorem Sound.listed_byId_of_mem (sound : state.Sound t) {id : String} {row : Row}
    (member : row ∈ state.rows) (live : row.isLive = true) (same : row .id = .text (some id)) :
    state.listed [.byId id] = [row] := by
  have found : row ∈ state.listed [.byId id] := by
    rw [listed_byId]
    exact List.mem_filter.2 ⟨List.mem_filter.2 ⟨member, live⟩, Value.same_text.2 same⟩
  have short := sound.length_listed_byId id
  match rows : state.listed [.byId id] with
  | [] =>
      rw [rows] at found
      exact absurd found List.not_mem_nil
  | [one] =>
      rw [rows] at found
      rw [List.mem_singleton.1 found]
  | _ :: _ :: _ =>
      rw [rows] at short
      exact absurd short (by simp)

theorem listed_nil (state : TableState) : state.listed [] = state.live := by
  refine List.filter_congr fun row _ => ?_
  simp [Row.satisfiesAll, Row.satisfies]

theorem any_satisfiesAll_live (state : TableState) (condition : Condition) :
    state.rows.any (Row.satisfiesAll [condition, .live]) =
      state.live.any fun row => row.satisfies condition := by
  rw [live, List.any_filter]
  congr 1
  funext row
  simp [Row.satisfiesAll, Row.satisfies, Bool.and_comm]

end Memory.TableState

/-! ## Runs on sound tables -/

theorem Program.run_answered {driver : Driver σ} {s : Statement} {state after : σ}
    {rows : List ResultRow} (answer : driver.query s state = (.ok rows, after))
    (next : List ResultRow → Program α) :
    (Program.query s (reply next)).run driver state = (next rows).run driver after := by
  simp only [run, answer, reply]

theorem Program.run_query {t : Table} {s : Statement} (now : Instant) {accounts : Accounts}
    (table : s.table = t) {rows : List ResultRow}
    (answer : (accounts.get t).query s = (.ok rows, accounts.get t))
    (next : List ResultRow → Program α) :
    (Program.query s (reply next)).run (Accounts.driver now) accounts =
      (next rows).run (Accounts.driver now) accounts := by
  refine run_answered ?_ next
  exact (Accounts.query_eq now table answer).trans (by rw [Accounts.set_get])

theorem Store.run_ifExists (t : Table) (predicate : ContactPredicate) (now : Instant)
    (accounts : Accounts) :
    (ifExists t predicate).run (Accounts.driver now) accounts =
      (.ok ((accounts.get t).live.any fun row => row.matchesContact predicate), accounts) := by
  rw [ifExists_eq_found, Program.run_query now rfl rfl]
  have found := (accounts.get t).any_satisfiesAll_live (.contact predicate)
  unfold Row.satisfies at found
  rw [← found]
  rfl

namespace Request
open Account

variable {α : Type} [Account α] {layer : Layer} {timing : Timing} {now : Instant} {stamp : Stamp}
  {accounts : Accounts}

theorem run_checkField (inTime : layer.InTime timing) (field : Field (table α)) (value : String) :
    (checkField field value).run layer timing now stamp accounts =
      (.ok (.truth ((accounts.get (table α)).live.any fun row =>
        (row field.column).same (.text (some value)))), accounts) := by
  rw [run_eq _ inTime]
  change (Answer.truth <$> Store.checkField (table α) field value).run _ _ = _
  rw [Program.run_map, Store.checkField_eq_counted, Program.run_query now rfl rfl]
  have found := (accounts.get (table α)).any_satisfiesAll_live
    (.equals field.column (.text (some value)))
  rw [TableState.any_eq_countP, ← decide_eq_decide.2 Int.natCast_pos] at found
  unfold Row.satisfies at found
  rw [← found]
  rfl

theorem run_ifExists (inTime : layer.InTime timing) (lookup : Lookup α) :
    (ifExists lookup).run layer timing now stamp accounts =
      (.ok (.truth ((accounts.get (table α)).live.any fun row =>
        row.matchesContact (predicate lookup))), accounts) := by
  rw [run_eq _ inTime]
  change (Answer.truth <$> Store.ifExists (table α) (predicate lookup)).run _ _ = _
  rw [Program.run_map, Store.run_ifExists]
  rfl

theorem run_changePassword (sound : accounts.Sound) (inTime : layer.InTime timing)
    (contact : Contact α) (password : String) :
    (changePassword contact password).run layer timing now stamp accounts =
      (.ok (.truth ((accounts.get (table α)).live.any fun row =>
          row.matchesContact (predicate (reset contact)))),
        accounts.set (table α) { accounts.get (table α) with
          rows := TableState.assigned now [(.password, .value (.text (some password)))]
            [.contact (predicate (reset contact)), .live] (accounts.get (table α)).rows }) := by
  have found := (accounts.get (table α)).any_satisfiesAll_live
    (.contact (predicate (reset contact)))
  have any : decide (∃ row ∈ (accounts.get (table α)).rows,
      row.satisfiesAll [.contact (predicate (reset contact)), .live] = true) = _ :=
    Bool.eq_iff_iff.2 (decide_eq_true_iff.trans List.any_eq_true.symm)
  unfold Row.satisfies at found
  rw [run_eq _ inTime, ← found, ← any]
  change (StoreCall.changePassword contact password : StoreCall α).program.run _ _ = _
  rw [StoreCall.program_of_rotation rfl]
  exact Program.run_rotating (.password (predicate (reset contact)) password) sound
    (table α) now

section Reads

variable [Readable α]

theorem exists_found (sound : accounts.Sound) (page : Pagination) (filters : List Filter) :
    ∃ found : List α,
      List.Forall₂ Reads found (page.cut ((accounts.get (table α)).listed filters)) :=
  exists_reading fun row member => (sound (table α)).typed row
    (List.mem_of_mem_filter ((page.cut_sublist _).mem member))

theorem run_list (sound : accounts.Sound) (inTime : layer.InTime timing) {page : Pagination}
    {filters : List Filter} {found : List α}
    (reads : List.Forall₂ Reads found (page.cut ((accounts.get (table α)).listed filters))) :
    (list page filters : Request α).run layer timing now stamp accounts =
      (.ok (.accounts found), accounts) := by
  rw [run_eq _ inTime]
  change (Answer.accounts <$> Store.list page filters).run _ _ = _
  rw [Program.run_map, Store.list_eq,
    Program.run_query now rfl ((sound (table α)).query_list filters page), mapM_of_reads reads]
  rfl

theorem run_get (sound : accounts.Sound) (inTime : layer.InTime timing) {id : String}
    {found : List α}
    (reads : List.Forall₂ Reads found ((accounts.get (table α)).listed [.byId id])) :
    (get id : Request α).run layer timing now stamp accounts =
      (found.head?.elim (.error .notFound) fun a => .ok (.account a), accounts) := by
  rw [run_eq _ inTime]
  change (Answer.account <$> Store.get id).run _ _ = _
  rw [Program.run_map, Store.get_eq, Statement.byId,
    Program.run_query now rfl ((sound (table α)).query_list [.byId id] .unlimited)]
  rw [Pagination.cut_unlimited]
  generalize (accounts.get (table α)).listed [.byId id] = rows at reads
  cases reads with
  | nil => rfl
  | @cons a row _ _ first rest =>
      have decoded : Store.ofRow (row.project (table α) (table α).projection) = .pure a :=
        congrArg (Program.ofOption _) (Readable.ofRow?_of_reads first)
      simp only [List.map_cons, List.head?_cons, Program.ofOption, Program.pure, Program.bind,
        decoded]
      rfl

theorem run_get_of_row (sound : accounts.Sound) (inTime : layer.InTime timing) {a : α} {row : Row}
    (member : row ∈ (accounts.get (table α)).rows) (live : row.isLive = true)
    (reads : Reads a row) :
    (get (Account.id a) : Request α).run layer timing now stamp accounts =
      (.ok (.account a), accounts) := by
  have one : List.Forall₂ Reads [a]
      ((accounts.get (table α)).listed [.byId (Account.id a)]) := by
    rw [(sound (table α)).listed_byId_of_mem member live reads.id]
    exact .cons reads .nil
  exact run_get sound inTime one

end Reads
end Request
end AccountStore

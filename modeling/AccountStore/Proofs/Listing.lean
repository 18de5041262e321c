import AccountStore.Proofs.ReadCodec
import Mathlib.Data.List.Nodup

/-!
# Listings and their reference

A listing shows a page of the live rows that every filter selects, by their ordinals
(`TableState.Lists`), whatever the table holds and in whatever order. Only which filters there are
matters, not how often or in which order they are given.
-/

namespace AccountStore
open Calendar Memory

/-! ## The reference -/

namespace Filter

variable {row : Row}

def Selects (row : Row) : Filter → Prop
  | byId id => row .id = .text (some id)
  | byCreatedAt instant => row .createdAt = .timestamp (some instant)

instance (f : Filter) : Decidable (f.Selects row) :=
  match f with
  | byId id => inferInstanceAs (Decidable (row .id = .text (some id)))
  | byCreatedAt instant => inferInstanceAs (Decidable (row .createdAt = .timestamp (some instant)))

theorem satisfies_condition {f : Filter} : row.satisfies f.condition = true ↔ f.Selects row := by
  cases f with
  | byId id => exact Value.same_text
  | byCreatedAt instant =>
      show (row .createdAt).same (.timestamp (some instant)) = true ↔
        row .createdAt = .timestamp (some instant)
      simp only [Value.same, Bool.and_eq_true, beq_iff_eq, Bool.not_eq_true', and_iff_right_iff_imp]
      intro same
      rw [same]
      rfl

end Filter

namespace Memory

namespace TableState

/-- The live rows that every filter selects, by ordinal. -/
structure Lists (state : TableState) (filters : List Filter) (rows : List Row) : Prop where
  perm : rows.Perm (state.rows.filter fun row => row.isLive ∧ ∀ f ∈ filters, f.Selects row)
  ordered : rows.Pairwise fun a b => a.ordinal ≤ b.ordinal

variable {state : TableState} {filters others : List Filter}

theorem listed_eq (state : TableState) (filters : List Filter) :
    state.listed filters =
      state.rows.filter fun row => row.isLive ∧ ∀ f ∈ filters, f.Selects row := by
  refine List.filter_congr fun row _ => ?_
  rw [Bool.eq_iff_iff, decide_eq_true_iff]
  simp only [Row.satisfiesAll, List.all_cons, List.all_map, Bool.and_eq_true, List.all_eq_true,
    Function.comp_apply, Filter.satisfies_condition]
  rfl

theorem lists_inOrder (state : TableState) (filters : List Filter) :
    state.Lists filters (state.inOrder filters) where
  perm := (sorted_perm _ _).trans (.of_eq (state.listed_eq filters))
  ordered := by
    have total : ∀ a b : Row,
        decide (a.ordinal ≤ b.ordinal) = true ∨ decide (b.ordinal ≤ a.ordinal) = true :=
      fun a b => by simpa using Int.le_total a.ordinal b.ordinal
    have ordered := sorted_pairwise total
      (fun a b c ab bc => by simp only [decide_eq_true_eq] at *; omega) (state.listed filters)
    exact ordered.imp of_decide_eq_true

/-- Rows of different ordinals are listed in one order only. -/
theorem Lists.unique {rows again : List Row} (distinct : (state.rows.map Row.ordinal).Nodup)
    (lists : state.Lists filters rows) (listsAgain : state.Lists filters again) : rows = again := by
  have stored : ∀ row, row ∈ rows ∨ row ∈ again → row ∈ state.rows := by
    rintro row (member | member)
    · exact List.mem_of_mem_filter (lists.perm.mem_iff.1 member)
    · exact List.mem_of_mem_filter (listsAgain.perm.mem_iff.1 member)
  refine (lists.perm.trans listsAgain.perm.symm).eq_of_pairwise ?_ lists.ordered
    listsAgain.ordered
  intro a b memberA memberB ab ba
  exact List.inj_on_of_nodup_map distinct (stored a (.inl memberA)) (stored b (.inr memberB))
    (Int.le_antisymm ab ba)

theorem inOrder_congr (same : ∀ f, f ∈ filters ↔ f ∈ others) :
    state.inOrder filters = state.inOrder others := by
  have selects : ∀ row, (∀ f ∈ filters, f.Selects row) ↔ ∀ f ∈ others, f.Selects row :=
    fun row => forall_congr' fun f => by rw [same]
  simp only [inOrder, listed_eq, selects]

theorem inOrder_of_apart {a b : String} (first : .byId a ∈ filters) (second : .byId b ∈ filters)
    (apart : a ≠ b) : state.inOrder filters = [] := by
  have none : state.listed filters = [] := by
    rw [listed_eq, List.filter_eq_nil_iff]
    intro row _ selected
    have selects := (of_decide_eq_true selected).2
    have same : row .id = .text (some a) := selects _ first
    have other : row .id = .text (some b) := selects _ second
    rw [same] at other
    exact apart (by simpa using other)
  rw [inOrder, none]
  rfl

end TableState

/-- The row has what the schema demands of the columns that reads return. -/
def Row.Conforms (t : Table) (row : Row) : Prop :=
  ∀ d ∈ t.definitions, d.column ∈ t.projection → d.nullable = false →
    d.type.admits (row d.column) = true

end Memory

/-! ## Listings of a table -/

section

open Account

variable {α : Type} [Account α]

theorem Account.exists_decodes_project [Decodable α] {row : Row}
    (conforms : row.Conforms (table α)) :
    ∃ a : α, Decodes a (row.project (table α) (table α).projection) := by
  refine exists_decodes_iff.2 fun d defined member required => ?_
  unfold ColumnDefinition.value?
  rw [Row.value_project member, Option.filter_some, if_pos (conforms d defined member required)]
  rfl

theorem Request.run_list_inOrder {layer : Layer} {timing : Timing} (inTime : layer.InTime timing)
    (now : Instant) (stamp : Stamp) (accounts : Accounts) (page : Pagination)
    (filters : List Filter) :
    (list page filters : Request α).run layer timing now stamp accounts =
      ((Store.every ((page.cut ((accounts.get (table α)).inOrder filters)).map
        (Row.project (table α) (table α).projection))).map .accounts, accounts) := by
  have answer : (Accounts.driver now).query (.list (table α) filters page) accounts =
      (_, accounts.set (table α) (accounts.get (table α))) :=
    Accounts.query_eq now rfl ((accounts.get (table α)).query_list (table α) filters page)
  rw [Accounts.set_get] at answer
  rw [run_eq _ inTime]
  change (Answer.accounts <$> Store.list page filters).run (Accounts.driver now) accounts = _
  rw [Program.run_map, Store.run_list_of_answer answer]

/-- What listings of a table answer, for every page and all filters. -/
structure ListsTable (state : TableState)
    (answer : Pagination → List Filter → Except AccountError (Answer α)) : Prop where
  /-- The rows that the reference has, decoded one by one: all of them, or so many after others. -/
  shows (filters : List Filter) : ∃ rows, state.Lists filters rows ∧ ∀ page : Pagination,
    (page.limit = 0 → ListsRows (rows.map (Row.project (table α) (table α).projection))
      (answer page filters)) ∧
    (page.limit ≠ 0 → ListsRows (((rows.drop page.offset.toNat).take page.limit.toNat).map
      (Row.project (table α) (table α).projection)) (answer page filters))
  /-- There is no other reference. -/
  unique (filters : List Filter) (rows again : List Row) :
    (state.rows.map Row.ordinal).Nodup → state.Lists filters rows → state.Lists filters again →
      rows = again
  succeeds (filters : List Filter) (page : Pagination) :
    (∀ row ∈ state.rows, row.Conforms (table α)) →
      ∃ found, answer page filters = .ok (.accounts found)
  /-- Filters may be permuted and repeated. -/
  unordered (filters others : List Filter) (page : Pagination) :
    (∀ f, f ∈ filters ↔ f ∈ others) → answer page filters = answer page others
  apart (filters : List Filter) (page : Pagination) (a b : String) :
    .byId a ∈ filters → .byId b ∈ filters → a ≠ b → answer page filters = .ok (.accounts [])

/-- Listings equal their reference on both layers, and leave the tables alone. -/
theorem list_eq_reference [Decodable α] {layer : Layer} {timing : Timing}
    (inTime : layer.InTime timing) (now : Instant) (stamp : Stamp) (accounts : Accounts) :
    ListsTable (accounts.get (table α)) (fun page filters =>
        (Request.list page filters : Request α).answer layer timing now stamp accounts) ∧
      ∀ page filters, ((Request.list page filters : Request α).run layer timing now stamp
        accounts).2 = accounts := by
  have run := Request.run_list_inOrder (α := α) inTime now stamp accounts
  refine ⟨⟨fun filters => ?_, fun _ _ _ => TableState.Lists.unique, ?_, ?_, ?_⟩,
    fun page filters => by rw [run]⟩
  · refine ⟨_, TableState.lists_inOrder _ filters, fun page => ⟨fun all => ?_, fun some => ?_⟩⟩
    · rw [Request.answer, run, Pagination.cut, if_pos all]
      exact listsRows_every _
    · rw [Request.answer, run, Pagination.cut, if_neg some]
      exact listsRows_every _
  · intro filters page conform
    rw [Request.answer, run]
    refine (listsRows_every _).ok fun row member => ?_
    obtain ⟨row, shown, rfl⟩ := List.mem_map.1 member
    have listed := (TableState.lists_inOrder _ filters).perm.mem_iff.1
      ((page.cut_sublist _).mem shown)
    exact exists_decodes_project (conform row (List.mem_of_mem_filter listed))
  · intro filters others page same
    rw [Request.answer, Request.answer, run, run, TableState.inOrder_congr same]
  · intro filters page a b first second apart
    rw [Request.answer, run, TableState.inOrder_of_apart first second apart]
    have shown : page.cut ([] : List Row) = [] := List.sublist_nil.1 (page.cut_sublist [])
    rw [shown]
    rfl

end

/-- Three users, the last one first. -/
def usersReversed : Accounts :=
  let user (id : String) : Stamp × Step :=
    (⟨"", .epoch⟩, .user (.store (.create { id, phoneNumber := id })))
  let created := (runSteps Accounts.driver ⟨0, 30000⟩ [user "a", user "b", user "c"] .empty).2
  created.set .users { created.users with rows := created.users.rows.reverse }

/-- The second page of one user shows the second user, who is in the middle of the table. -/
theorem list_eq_reference_reversed :
    let answer := (Request.list ⟨1, 1⟩ [.byCreatedAt .epoch] : Request User).answer .service
      ⟨5, 30⟩ .epoch ⟨"", .epoch⟩ usersReversed
    Layer.InTime .service ⟨5, 30⟩ ∧
      ∃ rows, (usersReversed.get .users).Lists [.byCreatedAt .epoch] rows ∧
        rows.map (· .id) = [.text (some "a"), .text (some "b"), .text (some "c")] ∧
        ListsRows (((rows.drop 1).take 1).map (Row.project .users Table.users.projection))
          answer ∧
        (Answer.listed answer).map User.id = ["b"] := by
  intro answer
  have inTime : Layer.InTime .service ⟨5, 30⟩ := fun _ => by decide
  obtain ⟨lists, _⟩ := list_eq_reference (α := User) inTime .epoch ⟨"", .epoch⟩ usersReversed
  obtain ⟨rows, reference, shows⟩ := lists.shows [.byCreatedAt .epoch]
  have same := lists.unique _ rows _ (by decide +kernel) reference
    (TableState.lists_inOrder _ _)
  refine ⟨inTime, rows, reference, ?_, (shows ⟨1, 1⟩).2 (by decide), by decide +kernel⟩
  rw [same]
  decide +kernel

end AccountStore

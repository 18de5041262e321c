import AccountStore.Memory.Accounts
import AccountStore.Proofs.Table.Change

/-!
# Sound tables

The invariant of an account table. The row at place `i` has ordinal `i + 1` and every column holds
what it may; identifiers are distinct over all rows, contact details over live rows. Lawful
statements keep it, and under them rows only evolve.
-/

namespace AccountStore
open Calendar

namespace Memory.TableState

structure Sound (t : Table) (state : TableState) : Prop where
  indexed : state.liveUnique = t.liveUnique
  next_eq : state.next = state.rows.length + 1
  ordinal (i : Nat) (row : Row) :
    state.rows[i]? = some row → row .ordinal = .bigint (some (i + 1 : Nat))
  typed : ∀ row ∈ state.rows, row.Typed t
  distinctIds : DistinctIds state.rows
  distinctLive : DistinctLive t.liveUnique state.rows

def HasLive (state : TableState) (id : String) : Prop :=
  ∃ row ∈ state.rows, row .id = .text (some id) ∧ row.isLive = true

def HasDeleted (state : TableState) (id : String) : Prop :=
  ∃ row ∈ state.rows, row .id = .text (some id) ∧ row.isLive = false

def Has (state : TableState) (id : String) : Prop :=
  ∃ row ∈ state.rows, row .id = .text (some id)

/-- A live row has the identifier and holds a value. -/
def LiveWith (state : TableState) (id : String) (c : Column) (v : Value) : Prop :=
  ∃ row ∈ state.rows, row .id = .text (some id) ∧ row.isLive = true ∧ row c = v

instance (state : TableState) (id : String) : Decidable (state.HasLive id) :=
  inferInstanceAs (Decidable (∃ row ∈ state.rows, _))

instance (state : TableState) (id : String) : Decidable (state.HasDeleted id) :=
  inferInstanceAs (Decidable (∃ row ∈ state.rows, _))

instance (state : TableState) (id : String) : Decidable (state.Has id) :=
  inferInstanceAs (Decidable (∃ row ∈ state.rows, _))

theorem has_iff {state : TableState} {id : String} :
    state.Has id ↔ state.HasLive id ∨ state.HasDeleted id := by
  constructor
  · rintro ⟨row, member, hid⟩
    cases live : row.isLive with
    | true => exact Or.inl ⟨row, member, hid, live⟩
    | false => exact Or.inr ⟨row, member, hid, live⟩
  · rintro (⟨row, member, hid, _⟩ | ⟨row, member, hid, _⟩) <;> exact ⟨row, member, hid⟩

/-! ## Consequences -/

variable {t : Table} {state after : TableState} {now : Instant} {s : Statement}

theorem sound_empty (t : Table) : (empty t.liveUnique).Sound t where
  indexed := rfl
  next_eq := rfl
  ordinal i row h := by simp [empty] at h
  typed row h := by simp [empty] at h
  distinctIds := .nil
  distinctLive := .nil

theorem DistinctIds.index_eq {rows : List Row} (distinct : DistinctIds rows)
    (typed : ∀ row ∈ rows, row.Typed t) {i j : Nat} {a b : Row} (ha : rows[i]? = some a)
    (hb : rows[j]? = some b) (same : a .id = b .id) : i = j := by
  obtain ⟨hi, rfl⟩ := List.getElem?_eq_some_iff.1 ha
  obtain ⟨hj, rfl⟩ := List.getElem?_eq_some_iff.1 hb
  have apart := List.pairwise_iff_getElem.1 distinct
  have text {k : Nat} (hk : k < rows.length) := (typed _ (List.getElem_mem hk)).id
  rcases Nat.lt_trichotomy i j with lt | eq | gt
  · exact absurd same ((Value.same_eq_false_of_text (text hi)).1 (apart i j hi hj lt))
  · exact eq
  · exact absurd same.symm ((Value.same_eq_false_of_text (text hj)).1 (apart j i hj hi gt))

/-- An assignment to the live row with an identifier changes one place of the table. -/
theorem assigned_liveById {rows : List Row} (typed : ∀ row ∈ rows, row.Typed t)
    (distinct : DistinctIds rows) {i : Nat} {row : Row} (here : rows[i]? = some row) {id : String}
    (matched : row.satisfiesAll (Statement.liveById id) = true) (now : Instant)
    (assignments : List (Column × Assigned)) :
    assigned now assignments (Statement.liveById id) rows =
      rows.set i (row.assign now assignments) := by
  apply List.ext_getElem?
  intro j
  rw [assigned, List.getElem?_map, List.getElem?_set]
  by_cases same : i = j
  · subst same
    obtain ⟨bound, _⟩ := List.getElem?_eq_some_iff.1 here
    rw [here]
    simp [matched, bound]
  · cases there : rows[j]? with
    | none => simp [same]
    | some other =>
        have unmatched : ¬ other.satisfiesAll (Statement.liveById id) = true := by
          intro matched'
          have ids := (Row.satisfiesAll_liveById.1 matched).1.trans
            (Row.satisfiesAll_liveById.1 matched').1.symm
          exact same (distinct.index_eq typed here there ids)
        simp [same, unmatched]

theorem Sound.eq_of_id (sound : state.Sound t) {a b : Row} (ha : a ∈ state.rows)
    (hb : b ∈ state.rows) (same : a .id = b .id) : a = b := by
  obtain ⟨i, hi⟩ := List.mem_iff_getElem?.1 ha
  obtain ⟨j, hj⟩ := List.mem_iff_getElem?.1 hb
  obtain rfl := sound.distinctIds.index_eq sound.typed hi hj same
  exact Option.some.inj (hi.symm.trans hj)

theorem Sound.admits (sound : state.Sound t) : Admits state.liveUnique state.rows := by
  rw [sound.indexed]
  exact ⟨sound.distinctIds, sound.distinctLive⟩

theorem Sound.not_hasDeleted (sound : state.Sound t) {id : String} (live : state.HasLive id) :
    ¬ state.HasDeleted id := by
  obtain ⟨a, ha, aid, alive⟩ := live
  rintro ⟨b, hb, bid, bdead⟩
  have same := sound.eq_of_id ha hb (aid.trans bid.symm)
  rw [same, bdead] at alive
  exact Bool.false_ne_true alive

theorem Sound.nodup_ids (sound : state.Sound t) : (state.rows.map (· .id)).Nodup := by
  refine List.pairwise_map.2 (sound.distinctIds.imp_of_mem fun ha _ distinct => ?_)
  exact (Value.same_eq_false_of_text (sound.typed _ ha).id).1 distinct

/-- The live rows, by ordinal. -/
def live (state : TableState) : List Row :=
  state.rows.filter Row.isLive

theorem DistinctLive.anti {columns fewer : List Column} {rows : List Row}
    (distinct : DistinctLive columns rows)
    (subset : fewer ⊆ columns) : DistinctLive fewer rows :=
  distinct.imp fun apart c member => apart c (subset member)

/-- On a column with an index, distinct means distinct as values. -/
theorem nodup_live_iff {c : Column} (typed : ∀ row ∈ state.rows, row.Typed t)
    (unique : c ∈ t.liveUnique) :
    (state.live.map (· c)).Nodup ↔ DistinctLive [c] state.rows := by
  have apart : ∀ a ∈ state.live, ∀ b : Row, (a c).same (b c) = false ↔ a c ≠ b c := by
    intro a member b
    exact Value.same_eq_false_of_text ((typed a (List.mem_filter.1 member).1).unique unique)
  unfold DistinctLive List.Nodup
  rw [List.pairwise_map]
  constructor
  · intro distinct
    refine distinct.imp_of_mem fun ha _ differ d member => ?_
    rw [List.mem_singleton.1 member]
    exact (apart _ ha _).2 differ
  · intro distinct
    exact distinct.imp_of_mem fun ha _ differ => (apart _ ha _).1 (differ c (by simp))

theorem Sound.nodup_live (sound : state.Sound t) {c : Column} (unique : c ∈ t.liveUnique) :
    (state.live.map (· c)).Nodup :=
  (nodup_live_iff sound.typed unique).2 (sound.distinctLive.anti (by simpa using unique))

theorem Sound.ordered (sound : state.Sound t) :
    state.rows.Pairwise fun a b => a.ordinal < b.ordinal := by
  refine List.pairwise_iff_getElem.2 fun i j hi hj lt => ?_
  have ordinal : ∀ i (h : i < state.rows.length), (state.rows[i]).ordinal = (i + 1 : Nat) := by
    intro i h
    simp only [Row.ordinal, sound.ordinal i _ (List.getElem?_eq_getElem h)]
  rw [ordinal i hi, ordinal j hj]
  omega

theorem any_eq_countP (rows : List Row) (p : Row → Bool) :
    rows.any p = decide (0 < rows.countP p) := by
  rw [Bool.eq_iff_iff, List.any_eq_true, decide_eq_true_iff, List.countP_pos_iff]

/-! ## Preservation -/

theorem evolves_assign {assignments : List (Column × Assigned)} {row : Row}
    (fixed : ∀ a ∈ assignments, a.1 ∉ [Column.id, .ordinal, .createdAt])
    (live : row.isLive = true) : row.Evolves (row.assign now assignments) := by
  have keeps : ∀ c ∈ [Column.id, .ordinal, .createdAt], row.assign now assignments c = row c := by
    intro c member
    refine Row.assign_of_notMem (fun a ha same => fixed a ha ?_) row
    exact same ▸ member
  exact ⟨keeps _ (by simp), keeps _ (by simp), keeps _ (by simp), by simp [live]⟩

theorem typed_assign {assignments : List (Column × Assigned)} {row : Row}
    (holds : ∀ a ∈ assignments, a.1.Holds (a.2.stored now)) (typed : row.Typed t) :
    (row.assign now assignments).Typed t := by
  intro c member
  rcases Row.assign_cases now assignments row c with ⟨a, ha, rfl, eq⟩ | eq
  · exact eq ▸ holds a ha
  · exact eq ▸ typed c member

theorem distinctIds_assigned {assignments : List (Column × Assigned)}
    {conditions : List Condition} {rows : List Row} (fixed : ∀ a ∈ assignments, a.1 ≠ .id)
    (distinct : DistinctIds rows) : DistinctIds (assigned now assignments conditions rows) := by
  have id : ∀ row : Row, (if row.satisfiesAll conditions then row.assign now assignments
      else row) .id = row .id := by
    intro row
    split
    · exact Row.assign_of_notMem fixed row
    · rfl
  unfold DistinctIds at distinct ⊢
  rw [assigned, List.pairwise_map]
  simpa only [id] using distinct

theorem evolves_ite (now : Instant) {assignments : List (Column × Assigned)}
    {conditions : List Condition}
    {row : Row} (gated : .live ∈ conditions)
    (fixed : ∀ a ∈ assignments, a.1 ∉ [Column.id, .ordinal, .createdAt]) :
    row.Evolves (if row.satisfiesAll conditions then row.assign now assignments else row) := by
  split
  · rename_i affected
    exact evolves_assign fixed (Row.isLive_of_satisfiesAll gated affected)
  · exact .refl row

theorem Changes.kept (lawful : s.Lawful t) (change : state.Changes now s after) :
    Row.Kept state.rows after.rows := by
  intro i a ha
  cases change with
  | inserted _ admitted =>
      refine ⟨a, ?_, .refl a⟩
      rw [List.getElem?_append_left (List.getElem?_eq_some_iff.1 ha).1, ha]
  | updated means admitted affected =>
      obtain ⟨gated, rest⟩ := lawful.update means
      refine ⟨_, ?_, evolves_ite now gated fun a ha => (rest a ha).1⟩
      simp only [assigned, List.getElem?_map, ha, Option.map_some]

theorem Changes.liveUnique_eq (change : state.Changes now s after) :
    after.liveUnique = state.liveUnique := by
  cases change <;> rfl

theorem liveUnique_execute (state : TableState) (now : Instant) (s : Statement) :
    (state.execute now s).2.liveUnique = state.liveUnique := by
  rcases state.execute_cases now s with ⟨n, after, run, change⟩ | ⟨run, _⟩ | run <;> rw [run]
  exact change.liveUnique_eq

theorem liveUnique_query (state : TableState) (s : Statement) :
    (state.query s).2.liveUnique = state.liveUnique := by
  rcases state.query_cases .epoch s with
    ⟨t, cells, returning, after, rfl, run, change⟩ | ⟨_, run⟩ | ⟨rows, _, run⟩ <;> rw [run]
  exact change.liveUnique_eq

theorem Changes.admits (change : state.Changes now s after) :
    Admits state.liveUnique after.rows := by
  cases change <;> assumption

theorem Changes.typed (lawful : s.Lawful t) (change : state.Changes now s after)
    (typed : ∀ row ∈ state.rows, row.Typed t) : ∀ row ∈ after.rows, row.Typed t := by
  intro row member
  cases change with
  | inserted means admitted =>
      rcases List.mem_append.1 member with old | added
      · exact typed row old
      · rw [List.mem_singleton.1 added]
        exact (lawful.insert means _).typed
  | updated means admitted affected =>
      obtain ⟨gated, rest⟩ := lawful.update means
      obtain ⟨old, hold, rfl⟩ := List.mem_map.1 member
      split
      · exact typed_assign (fun a ha => (rest a ha).2 now) (typed old hold)
      · exact typed old hold

theorem Sound.changes (sound : state.Sound t) (lawful : s.Lawful t)
    (change : state.Changes now s after) : after.Sound t := by
  have typed := change.typed lawful sound.typed
  have admitted := change.admits
  rw [sound.indexed] at admitted
  have indexed := change.liveUnique_eq.trans sound.indexed
  cases change with
  | inserted =>
      refine ⟨indexed, by simp [sound.next_eq], ?_, typed, admitted.1, admitted.2⟩
      intro i row h
      rcases Nat.lt_or_ge i state.rows.length with inside | outside
      · rw [List.getElem?_append_left inside] at h
        exact sound.ordinal i row h
      · rw [List.getElem?_append_right outside] at h
        obtain ⟨bound, rfl⟩ := List.getElem?_eq_some_iff.1 h
        have last : i = state.rows.length := by simp at bound; omega
        simp [last, sound.next_eq]
  | updated means _ affected =>
      obtain ⟨gated, rest⟩ := lawful.update means
      refine ⟨indexed, by simp [assigned, sound.next_eq], ?_, typed, admitted.1, admitted.2⟩
      intro i row h
      simp only [assigned, List.getElem?_map, Option.map_eq_some_iff] at h
      obtain ⟨old, hold, rfl⟩ := h
      rw [(evolves_ite _ gated fun a ha => (rest a ha).1).ordinal]
      exact sound.ordinal i old hold

theorem Sound.execute (sound : state.Sound t) (lawful : s.Lawful t) (now : Instant) :
    (state.execute now s).2.Sound t := by
  rcases execute_cases now state s with ⟨n, after, run, change⟩ | ⟨run, _⟩ | run
  · rw [run]
    exact sound.changes lawful change
  · rw [run]
    exact sound
  · rw [run]
    exact sound

end Memory.TableState

/-! ## Both tables -/

namespace Memory.Accounts

@[simp] theorem get_set (accounts : Accounts) (t : Table) (state : TableState) :
    (accounts.set t state).get t = state := by
  cases t <;> rfl

theorem get_set_of_ne {t u : Table} (h : u ≠ t) (accounts : Accounts) (state : TableState) :
    (accounts.set t state).get u = accounts.get u := by
  cases t <;> cases u <;> first | rfl | exact absurd rfl h

/-- What holds of the new table and held of the others holds of both afterwards. -/
theorem forall_set {P : Table → TableState → Prop} {accounts : Accounts} {t : Table}
    {state : TableState} (there : P t state) (others : ∀ u, P u (accounts.get u)) (u : Table) :
    P u ((accounts.set t state).get u) := by
  by_cases same : u = t
  · rw [same, get_set]
    exact there
  · rw [get_set_of_ne same]
    exact others u

@[simp] theorem set_get (accounts : Accounts) (t : Table) :
    accounts.set t (accounts.get t) = accounts := by
  cases t <;> rfl

def Sound (accounts : Accounts) : Prop :=
  ∀ t, (accounts.get t).Sound t

theorem sound_empty : empty.Sound := fun
  | .users => TableState.sound_empty .users
  | .admins => TableState.sound_empty .admins

/-- Every row of the first is still in the second, as what it may have become. -/
def Kept (before after : Accounts) : Prop :=
  ∀ t, Row.Kept (before.get t).rows (after.get t).rows

theorem Kept.refl (accounts : Accounts) : Kept accounts accounts := fun _ => .refl _

theorem Kept.trans {a b c : Accounts} (ab : Kept a b) (bc : Kept b c) : Kept a c :=
  fun t => (ab t).trans (bc t)

theorem Kept.has {a b : Accounts} (kept : a.Kept b) {t : Table} {id : String}
    (present : (a.get t).Has id) : (b.get t).Has id := by
  obtain ⟨row, member, hid⟩ := present
  obtain ⟨later, there, evolves⟩ := (kept t).mem member
  exact ⟨later, there, evolves.id.trans hid⟩

theorem Kept.hasDeleted {a b : Accounts} (kept : a.Kept b) {t : Table} {id : String}
    (deleted : (a.get t).HasDeleted id) : (b.get t).HasDeleted id := by
  obtain ⟨row, member, hid, dead⟩ := deleted
  obtain ⟨later, there, evolves⟩ := (kept t).mem member
  obtain rfl := evolves.frozen dead
  exact ⟨_, there, hid, dead⟩

variable {accounts : Accounts} {t : Table} {now : Instant} {s : Statement} {after : TableState}

theorem Sound.changes (sound : accounts.Sound) (lawful : s.Lawful t)
    (change : (accounts.get t).Changes now s after) : (accounts.set t after).Sound :=
  forall_set (P := fun u state => state.Sound u) ((sound t).changes lawful change) sound

theorem kept_set (lawful : s.Lawful t) (change : (accounts.get t).Changes now s after) :
    accounts.Kept (accounts.set t after) :=
  forall_set (P := fun u state => Row.Kept (accounts.get u).rows state.rows) (change.kept lawful)
    fun _ => .refl _

end Memory.Accounts
end AccountStore

import AccountStore.Proofs.Operation.Change
import AccountStore.Proofs.Table.Sound

/-!
# What a change makes of the rows

A change that takes effect inserts its row or rewrites the rows that are there, and `rewrite_ne`
says which column of which row it may alter. From this it follows which change makes an identifier
appear, deletes a row or takes a value from a live row.
-/

namespace AccountStore
open Calendar Memory

namespace Change

/-- What a change makes of a row that is there. -/
def rewrite (now : Instant) (row : Row) : Change → Row
  | nothing => row
  | insertion _ _ => row
  | replacement id cells =>
      if row.satisfiesAll (Statement.liveById id) then
        row.assign now (cells.map fun c => (c.1, .value c.2))
      else row
  | deletion id =>
      if row.satisfiesAll (Statement.liveById id) then
        row.assign now [(.deletedAt, .currentTime)]
      else row
  | .password predicate new =>
      if row.satisfiesAll [.contact predicate, .live] then
        row.assign now [(.password, .value (.text (some new)))]
      else row
  | .refreshToken id token =>
      if row.satisfiesAll (Statement.liveById id) then
        row.assign now [(.refreshToken, .value (.text (some token)))]
      else row

/-- An update, a deletion or a change of credentials matches the row. -/
def Concerns (row : Row) : Change → Prop
  | nothing => False
  | insertion _ _ => False
  | replacement id _ => row .id = .text (some id)
  | deletion id => row .id = .text (some id)
  | .password predicate _ => row.matchesContact predicate = true
  | .refreshToken id _ => row .id = .text (some id)

instance (row : Row) : DecidablePred (Concerns row)
  | nothing => .isFalse not_false
  | insertion _ _ => .isFalse not_false
  | replacement id _ => inferInstanceAs (Decidable (row .id = .text (some id)))
  | deletion id => inferInstanceAs (Decidable (row .id = .text (some id)))
  | .password predicate _ => inferInstanceAs (Decidable (row.matchesContact predicate = true))
  | .refreshToken id _ => inferInstanceAs (Decidable (row .id = .text (some id)))

variable {t : Table} {c : Change} {now : Instant} {s : Statement} {state after : TableState}
  {row : Row} {column : Column}

theorem rewrite_of_not_concerns (other : ¬ c.Concerns row) (now : Instant) :
    c.rewrite now row = row := by
  cases c with
  | nothing | insertion => rfl
  | replacement | deletion | refreshToken =>
      exact if_neg fun matched => other (Row.satisfiesAll_liveById.1 matched).1
  | password predicate new =>
      have unmatched : ¬ row.satisfiesAll [.contact predicate, .live] = true := fun matched =>
        other (List.all_eq_true.1 matched (.contact predicate) List.mem_cons_self)
      exact if_neg unmatched

/-- A change alters live rows only, and apart from passwords only the row with its identifier. -/
theorem rewrite_ne (altered : c.rewrite now row column ≠ row column) :
    row.isLive = true ∧
      ((∃ id cells, c = .replacement id cells ∧ row .id = .text (some id) ∧
          ∃ cell ∈ cells, cell.1 = column) ∨
        (∃ id, c = .deletion id ∧ row .id = .text (some id) ∧ column = .deletedAt) ∨
        column = .password ∨
        ∃ id token, c = .refreshToken id token ∧ row .id = .text (some id) ∧
          column = .refreshToken) := by
  -- every rewriting is an assignment to the rows that satisfy some conditions
  have assigned : ∀ {conditions assignments}, (if row.satisfiesAll conditions = true then
      row.assign now assignments else row) column ≠ row column →
        row.satisfiesAll conditions = true ∧ ∃ a ∈ assignments, a.1 = column := by
    intro conditions assignments h
    by_cases matched : row.satisfiesAll conditions = true
    · rw [if_pos matched] at h
      refine ⟨matched, ?_⟩
      rcases Row.assign_cases now assignments row column with ⟨a, member, same, _⟩ | same
      · exact ⟨a, member, same⟩
      · exact absurd same h
    · rw [if_neg matched] at h
      exact absurd rfl h
  cases c with
  | nothing | insertion => exact absurd rfl altered
  | replacement id cells =>
      obtain ⟨matched, a, member, same⟩ := assigned altered
      obtain ⟨cell, there, rfl⟩ := List.mem_map.1 member
      obtain ⟨hid, live⟩ := Row.satisfiesAll_liveById.1 matched
      exact ⟨live, Or.inl ⟨id, cells, rfl, hid, cell, there, same⟩⟩
  | deletion id =>
      obtain ⟨matched, a, member, same⟩ := assigned altered
      obtain ⟨hid, live⟩ := Row.satisfiesAll_liveById.1 matched
      rw [List.mem_singleton.1 member] at same
      exact ⟨live, Or.inr (Or.inl ⟨id, rfl, hid, same.symm⟩)⟩
  | password predicate new =>
      obtain ⟨matched, a, member, same⟩ := assigned altered
      rw [List.mem_singleton.1 member] at same
      exact ⟨Row.isLive_of_satisfiesAll (by simp) matched, Or.inr (Or.inr (Or.inl same.symm))⟩
  | refreshToken id token =>
      obtain ⟨matched, a, member, same⟩ := assigned altered
      obtain ⟨hid, live⟩ := Row.satisfiesAll_liveById.1 matched
      rw [List.mem_singleton.1 member] at same
      exact ⟨live, Or.inr (Or.inr (Or.inr ⟨id, token, rfl, hid, same.symm⟩))⟩

theorem rewrite_ne_of_fixed (lawful : c.Lawful t) (fixed : column ∉ t.updatable)
    (altered : c.rewrite now row column ≠ row column) :
    row.isLive = true ∧
      ((∃ id, c = .deletion id ∧ row .id = .text (some id) ∧ column = .deletedAt) ∨
      column = .refreshToken) := by
  obtain ⟨live, ⟨id, cells, rfl, _, cell, member, rfl⟩ | deleted | rfl | ⟨_, _, _, _, token⟩⟩ :=
    rewrite_ne altered
  · exact absurd (lawful cell member).1 fixed
  · exact ⟨live, Or.inl deleted⟩
  · exact absurd (by cases t <;> decide) fixed
  · exact ⟨live, Or.inr token⟩

theorem rewrite_id (lawful : c.Lawful t) (now : Instant) (row : Row) :
    c.rewrite now row .id = row .id :=
  Classical.byContradiction fun altered => by
    have := rewrite_ne_of_fixed lawful (by cases t <;> decide) altered
    simp at this

theorem rewrite_isLive (lawful : c.Lawful t) (live : row.isLive = true)
    (dead : (c.rewrite now row).isLive = false) :
    ∃ id, c = .deletion id ∧ row .id = .text (some id) := by
  have altered : c.rewrite now row .deletedAt ≠ row .deletedAt := by
    intro same
    unfold Row.isLive at live dead
    rw [same, live] at dead
    exact Bool.noConfusion dead
  obtain ⟨_, ⟨id, deletion, hid, _⟩ | token⟩ :=
    rewrite_ne_of_fixed lawful (by cases t <;> decide) altered
  · exact ⟨id, deletion, hid⟩
  · exact absurd token (by decide)

theorem Writes.rows (writes : c.Writes t s) (change : state.Changes now s after) :
    (∃ id cells, c = .insertion id cells ∧
        after = { state with
          rows := state.rows ++ [Row.ofCells state.next cells], next := state.next + 1 }) ∨
      (∀ id cells, c ≠ .insertion id cells) ∧
        after = { state with rows := state.rows.map fun row => c.rewrite now row } := by
  cases c with
  | nothing => exact writes.elim
  | insertion id cells =>
      obtain ⟨returning, rfl⟩ := writes
      exact Or.inl ⟨id, cells, rfl, change.of_insert rfl⟩
  | replacement | deletion | password | refreshToken =>
      cases writes
      exact Or.inr ⟨nofun, (change.of_update rfl).2⟩

/-! ## Taking effect -/

/-- A write of a change takes effect. -/
def Applies (t : Table) (c : Change) (now : Instant) (before after : Accounts) : Prop :=
  ∃ s state, c.Writes t s ∧ (before.get t).Changes now s state ∧ after = before.set t state

namespace Applies

variable {u : Table} {before after : Accounts} {id : String}

theorem sound (lawful : c.Lawful t) (applies : c.Applies t now before after)
    (sound : before.Sound) : after.Sound := by
  obtain ⟨s, state, writes, change, rfl⟩ := applies
  exact sound.changes (writes.lawful lawful) change

theorem kept (lawful : c.Lawful t) (applies : c.Applies t now before after) :
    before.Kept after := by
  obtain ⟨s, state, writes, change, rfl⟩ := applies
  exact Accounts.kept_set (writes.lawful lawful) change

theorem mem (applies : c.Applies t now before after) {row : Row}
    (member : row ∈ (after.get u).rows) :
    row ∈ (before.get u).rows ∨ u = t ∧
      ((∃ id cells, c = .insertion id cells ∧ row = Row.ofCells (before.get t).next cells) ∨
        ∃ old ∈ (before.get t).rows, row = c.rewrite now old) := by
  obtain ⟨s, state, writes, change, rfl⟩ := applies
  by_cases same : u = t
  · subst same
    rw [Accounts.get_set] at member
    rcases writes.rows change with ⟨id, cells, insertion, rfl⟩ | ⟨_, rfl⟩
    · rcases List.mem_append.1 member with old | new
      · exact Or.inl old
      · exact Or.inr ⟨rfl, Or.inl ⟨id, cells, insertion, List.mem_singleton.1 new⟩⟩
    · obtain ⟨old, there, rfl⟩ := List.mem_map.1 member
      exact Or.inr ⟨rfl, Or.inr ⟨old, there, rfl⟩⟩
  · rw [Accounts.get_set_of_ne same] at member
    exact Or.inl member

theorem mem_of_not_concerns (applies : c.Applies t now before after)
    (member : row ∈ (before.get u).rows) (other : t = u → ¬ c.Concerns row) :
    row ∈ (after.get u).rows := by
  obtain ⟨s, state, writes, change, rfl⟩ := applies
  by_cases same : u = t
  · subst same
    rw [Accounts.get_set]
    rcases writes.rows change with ⟨id, cells, _, rfl⟩ | ⟨_, rfl⟩
    · exact List.mem_append_left _ member
    · exact List.mem_map.2 ⟨row, member, rewrite_of_not_concerns (other rfl) now⟩
  · rw [Accounts.get_set_of_ne same]
    exact member

theorem begins_has (lawful : c.Lawful t) (applies : c.Applies t now before after)
    (absent : ¬ (before.get u).Has id) (present : (after.get u).Has id) :
    u = t ∧ ∃ cells, c = .insertion id cells := by
  obtain ⟨row, member, hid⟩ := present
  rcases applies.mem member with old | ⟨rfl, ⟨id', cells, rfl, rfl⟩ | ⟨old, there, rfl⟩⟩
  · exact absurd ⟨row, old, hid⟩ absent
  · rw [(lawful _).2] at hid
    cases hid
    exact ⟨rfl, cells, rfl⟩
  · rw [rewrite_id lawful] at hid
    exact absurd ⟨old, there, hid⟩ absent

theorem begins_hasDeleted (lawful : c.Lawful t) (applies : c.Applies t now before after)
    (absent : ¬ (before.get u).HasDeleted id) (present : (after.get u).HasDeleted id) :
    u = t ∧ c = .deletion id := by
  obtain ⟨row, member, hid, dead⟩ := present
  rcases applies.mem member with old | ⟨rfl, ⟨id', cells, rfl, rfl⟩ | ⟨old, there, rfl⟩⟩
  · exact absurd ⟨row, old, hid, dead⟩ absent
  · rw [(lawful _).1.isLive] at dead
    exact absurd dead nofun
  · rw [rewrite_id lawful] at hid
    cases live : old.isLive with
    | false => exact absurd ⟨old, there, hid, live⟩ absent
    | true =>
        obtain ⟨id', rfl, same⟩ := rewrite_isLive lawful live dead
        rw [hid] at same
        cases same
        exact ⟨rfl, rfl⟩

theorem of_deletion (applies : (Change.deletion id).Applies t now before after) :
    (before.get t).HasLive id ∧ (after.get t).HasDeleted id := by
  obtain ⟨s, state, writes, change, rfl⟩ := applies
  cases writes
  obtain ⟨⟨row, member, matched⟩, rfl⟩ :=
    change.of_update (Statement.meaning_update_gate t [(.deletedAt, .currentTime)] id)
  obtain ⟨hid, live⟩ := Row.satisfiesAll_liveById.1 matched
  rw [Accounts.get_set]
  refine ⟨⟨row, member, hid, live⟩, _, List.mem_map_of_mem member, ?_, ?_⟩
  · rw [if_pos matched]
    exact hid
  · rw [if_pos matched]
    rfl

/-- An update or a deletion assigns to one live row. -/
theorem of_modified? (applies : c.Applies t now before after) (target : c.modified? = some id)
    (typed : ∀ row ∈ (before.get t).rows, row.Typed t)
    (distinct : TableState.DistinctIds (before.get t).rows) :
    ∃ assignments i row, c.Writes t (.update t assignments (Statement.gate id)) ∧
      (before.get t).rows[i]? = some row ∧ row .id = .text (some id) ∧ row.isLive = true ∧
      after = before.set t { before.get t with
        rows := (before.get t).rows.set i (row.assign now assignments) } := by
  obtain ⟨s, state, writes, change, rfl⟩ := applies
  obtain ⟨assignments, rfl, _⟩ := writes.of_modified? target
  obtain ⟨⟨row, member, matched⟩, rfl⟩ :=
    change.of_update (Statement.meaning_update_gate t assignments id)
  obtain ⟨i, here⟩ := List.mem_iff_getElem?.1 member
  obtain ⟨same, live⟩ := Row.satisfiesAll_liveById.1 matched
  refine ⟨assignments, i, row, writes, here, same, live, ?_⟩
  rw [TableState.assigned_liveById typed distinct here matched]

/-- After a deletion the live rows are those from before it but the one with its identifier. -/
theorem live_of_deletion (applies : (Change.deletion id).Applies t now before after) {row : Row}
    (member : row ∈ (after.get t).rows) (live : row.isLive = true) :
    row ∈ (before.get t).rows ∧ row .id ≠ .text (some id) := by
  obtain ⟨s, state, writes, change, rfl⟩ := applies
  cases writes
  obtain ⟨_, rfl⟩ :=
    change.of_update (Statement.meaning_update_gate t [(.deletedAt, .currentTime)] id)
  rw [Accounts.get_set] at member
  obtain ⟨old, there, rfl⟩ := List.mem_map.1 member
  by_cases matched : old.satisfiesAll (Statement.liveById id) = true
  · rw [if_pos matched] at live
    exact absurd live nofun
  · rw [if_neg matched] at live ⊢
    exact ⟨there, fun same => matched (Row.satisfiesAll_liveById.2 ⟨same, live⟩)⟩

theorem of_insertion {cells : List (Column × Value)}
    (applies : (Change.insertion id cells).Applies t now before after) :
    after = before.set t { before.get t with
      rows := (before.get t).rows ++ [Row.ofCells (before.get t).next cells],
      next := (before.get t).next + 1 } := by
  obtain ⟨s, state, ⟨returning, rfl⟩, change, rfl⟩ := applies
  rw [change.of_insert rfl]

theorem length_of_not_insertion (applies : c.Applies t now before after)
    (other : u = t → ∀ id cells, c ≠ .insertion id cells) :
    (after.get u).rows.length = (before.get u).rows.length := by
  obtain ⟨s, state, writes, change, rfl⟩ := applies
  by_cases same : u = t
  · subst same
    rcases writes.rows change with ⟨id, cells, insertion, _⟩ | ⟨_, rfl⟩
    · exact absurd insertion (other rfl id cells)
    · simp
  · rw [Accounts.get_set_of_ne same]

/-- A live row loses a value by its deletion, or it gets another one. -/
theorem ends_liveWith_cases (lawful : c.Lawful t) (applies : c.Applies t now before after)
    {v : Value} (held : (before.get u).LiveWith id column v)
    (lost : ¬ (after.get u).LiveWith id column v) :
    u = t ∧ (c = .deletion id ∧ (after.get u).HasDeleted id ∨
      ∃ row : Row, row .id = .text (some id) ∧ row column = v ∧
        c.rewrite now row column ≠ row column ∧
        (after.get u).LiveWith id column (c.rewrite now row column)) := by
  obtain ⟨row, member, hid, live, holds⟩ := held
  have rewritten : u = t ∧ c.rewrite now row ∈ (after.get u).rows := by
    obtain ⟨s, state, writes, change, rfl⟩ := applies
    by_cases same : u = t
    · subst same
      rw [Accounts.get_set] at lost ⊢
      rcases writes.rows change with ⟨id, cells, rfl, rfl⟩ | ⟨_, rfl⟩
      · exact absurd ⟨row, List.mem_append_left _ member, hid, live, holds⟩ lost
      · exact ⟨rfl, List.mem_map_of_mem member⟩
    · rw [Accounts.get_set_of_ne same] at lost
      exact absurd ⟨row, member, hid, live, holds⟩ lost
  obtain ⟨rfl, there⟩ := rewritten
  have sameId := (rewrite_id lawful now row).trans hid
  refine ⟨rfl, ?_⟩
  cases after : (c.rewrite now row).isLive with
  | false =>
      obtain ⟨id', rfl, hid'⟩ := rewrite_isLive lawful live after
      rw [hid] at hid'
      cases hid'
      exact Or.inl ⟨rfl, _, there, sameId, after⟩
  | true =>
      -- the row is still live, so it must have got another value
      have altered : c.rewrite now row column ≠ row column := fun same =>
        lost ⟨_, there, sameId, after, same.trans holds⟩
      exact Or.inr ⟨row, hid, holds, altered, _, there, sameId, after, rfl⟩

/-- Only a deletion or an update takes a unique value from a live row. -/
theorem ends_liveWith (lawful : c.Lawful t) (applies : c.Applies t now before after)
    (unique : column ∈ u.liveUnique) {v : Value} (held : (before.get u).LiveWith id column v)
    (lost : ¬ (after.get u).LiveWith id column v) :
    u = t ∧ (c = .deletion id ∧ (after.get u).HasDeleted id ∨
      (∃ cells, c = .replacement id cells) ∧ ∃ other, other ≠ v ∧
        (after.get u).LiveWith id column other) := by
  obtain ⟨same, deleted | ⟨row, hid, holds, altered, later⟩⟩ :=
    applies.ends_liveWith_cases lawful held lost
  · exact ⟨same, Or.inl deleted⟩
  · have notOther : column ≠ .deletedAt ∧ column ≠ .password ∧ column ≠ .refreshToken := by
      revert unique
      cases u <;> cases column <;> decide
    obtain ⟨_, ⟨id', cells, replacement, hid', _⟩ | ⟨_, _, _, other⟩ | other |
      ⟨_, _, _, _, other⟩⟩ := rewrite_ne altered
    · rw [hid] at hid'
      cases hid'
      exact ⟨same, Or.inr ⟨⟨cells, replacement⟩, _, holds ▸ altered, later⟩⟩
    · exact absurd other notOther.1
    · exact absurd other notOther.2.1
    · exact absurd other notOther.2.2

/-- Only its deletion or a new one takes the refresh token from a live row. -/
theorem ends_refreshToken (lawful : c.Lawful t) (applies : c.Applies t now before after)
    {v : Value} (held : (before.get u).LiveWith id .refreshToken v)
    (lost : ¬ (after.get u).LiveWith id .refreshToken v) :
    u = t ∧ ((after.get u).HasDeleted id ∨ ∃ token, c = .refreshToken id token) := by
  obtain ⟨same, ⟨_, deleted⟩ | ⟨row, hid, _, altered, _⟩⟩ :=
    applies.ends_liveWith_cases lawful held lost
  · exact ⟨same, Or.inl deleted⟩
  · obtain ⟨_, ⟨_, cells, rfl, _, cell, member, column⟩ | ⟨_, _, _, other⟩ | other |
      ⟨id', token, rotates, hid', _⟩⟩ := rewrite_ne altered
    · have updatable := (lawful cell member).1
      rw [column] at updatable
      exact absurd updatable (by cases t <;> decide)
    · exact absurd other (by decide)
    · exact absurd other (by decide)
    · rw [hid] at hid'
      cases hid'
      exact ⟨same, Or.inr ⟨token, rotates⟩⟩

end Applies
end Change
end AccountStore

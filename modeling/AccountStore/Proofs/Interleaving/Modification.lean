import AccountStore.Proofs.Interleaving.World
import AccountStore.Proofs.Operation.Modification

/-!
# Concurrent updates and deletions

An update and a deletion look up what became of their row in a second statement, and other clients
may change the tables before it. `concurrent_modifications` says what each answer still means, and
that of the deletions of one row exactly one succeeds.
-/

namespace AccountStore
open Memory

variable {ι : Type} [DecidableEq ι] {calls : ι → Stamp × Step} {first : Accounts} {world : World ι}
  {i j : ι} {t : Table} {id : String}

def Creates (calls : ι → Stamp × Step) (t : Table) (id : String) (i : ι) : Prop :=
  (calls i).2.table = t ∧ ∃ cells, (calls i).2.change (calls i).1 = .insertion id cells

def Deletes (calls : ι → Stamp × Step) (t : Table) (id : String) (i : ι) : Prop :=
  (calls i).2.table = t ∧ (calls i).2.change (calls i).1 = .deletion id

/-- What the answer of a client that updates or deletes a row says. -/
structure Modified (calls : ι → Stamp × Step) (world : World ι) (t : Table) (id : String) (i : ι) :
    Prop where
  /-- It sends its update and at most one look-up. -/
  sends : (∀ u, (world.sentBy i).head? = some u →
      ((calls i).2.change (calls i).1).Writes t u.statement) ∧
    (∀ l ∈ (world.sentBy i).tail, l.statement = .deletionMarker t id) ∧
    (world.sentBy i).length ≤ 2
  ok : world.Succeeds i ↔
    ∃ u, (world.sentBy i).head? = some u ∧ (u.before.get t).HasLive id ∧ u.refusal? = none
  refused (u : Exchange) : (world.sentBy i).head? = some u → u.refusal? ≠ none →
    world.sentBy i = [u] ∧ world.answer? i = some (.error (.conflict "Record"))
  notFound : world.answer? i = some (.error .notFound) →
    ∃ u l, world.sentBy i = [u, l] ∧ ¬ (u.before.get t).Has id ∧ ¬ (l.before.get t).Has id
  alreadyDeleted : world.answer? i = some (.error .alreadyDeleted) →
    ∃ u l, world.sentBy i = [u, l] ∧ (l.before.get t).HasDeleted id
  deleted (u : Exchange) : (world.sentBy i).head? = some u → (u.before.get t).HasDeleted id →
    world.answer? i = none ∨ world.answer? i = some (.error .alreadyDeleted)
  internal : (∃ text, world.answer? i = some (.error (.internal text))) ↔
    ∃ u l, world.sentBy i = [u, l] ∧ (l.before.get t).HasLive id
  /-- Another client creates the row between the two statements. -/
  created (u l : Exchange) : world.sentBy i = [u, l] → (l.before.get t).HasLive id →
    ¬ (u.before.get t).Has id ∧ ∃ before middle after j e,
      world.log = before ++ (i, u) :: (middle ++ (i, l) :: after) ∧ (j, e) ∈ middle ∧ j ≠ i ∧
        Creates calls t id j ∧ world.Succeeds j ∧
        ¬ (e.before.get t).Has id ∧ (e.after.get t).Has id

namespace World

theorem Follows.modification (follows : world.Follows calls first) (sound : first.Sound)
    (target : ((calls i).2.change (calls i).1).modified? = some id) :
    Modification (calls i).2.table ((calls i).2.change (calls i).1) id (world.sentBy i)
      (world.answer? i) :=
  (Step.modifies_program target).becomes target (follows.becomes i) fun _ member =>
    follows.sound_before sound (mem_sentBy.1 member)

theorem Follows.between_own (follows : world.Follows calls first) {u l : Exchange}
    (own : world.sentBy i = [u, l]) :
    ∃ before middle after, world.log = before ++ (i, u) :: (middle ++ (i, l) :: after) ∧
      (∀ sent ∈ middle, sent.1 ≠ i) ∧ Linked u.after (middle.map (·.2)) l.before ∧
      middle ⊆ world.log := by
  obtain ⟨before, rest, log, _, more⟩ := ownOf_eq_cons.1 own
  obtain ⟨middle, after, rfl, others, _⟩ := ownOf_eq_cons.1 more
  refine ⟨before, middle, after, log, others, follows.between log, fun sent member => ?_⟩
  rw [log]
  simp [member]

theorem Follows.modified (follows : world.Follows calls first) (sound : first.Sound)
    (target : ((calls i).2.change (calls i).1).modified? = some id) :
    Modified calls world (calls i).2.table id i := by
  have outcome := follows.modification sound target
  have soundTable : ∀ e ∈ world.sentBy i,
      (e.before.get (calls i).2.table).Sound (calls i).2.table := fun e member =>
    follows.sound_before sound (mem_sentBy.1 member) _
  -- a call that looks the row up has changed nothing itself
  have kept : ∀ {u l}, world.sentBy i = [u, l] → u.before.Kept l.before := by
    intro u l own
    obtain ⟨_, same, _⟩ := outcome.of_lookup own
    obtain ⟨_, middle, _, _, _, linked, sub⟩ := follows.between_own own
    exact same ▸ follows.kept_part linked sub
  refine ⟨outcome.sends, outcome.ok_iff, ?_, ?_, ?_, ?_, ?_, ?_⟩
  · intro u head refused
    obtain ⟨own, _, answer⟩ := outcome.of_refused head refused
    exact ⟨own, answer⟩
  · intro answer
    obtain ⟨u, l, own, explains⟩ := outcome.lookup_of_missing answer (Or.inl rfl)
    have absent := TableState.explanation_eq_notFound.1 explains.symm
    exact ⟨u, l, own, fun present => absent ((kept own).has present), absent⟩
  · intro answer
    obtain ⟨u, l, own, explains⟩ := outcome.lookup_of_missing answer (Or.inr (Or.inl rfl))
    exact ⟨u, l, own, (TableState.explanation_eq_alreadyDeleted.1 explains.symm).2⟩
  · intro u head deleted
    have soundFirst := soundTable u (List.mem_of_mem_head? head)
    have absent := fun live => soundFirst.not_hasDeleted live deleted
    refine (outcome.of_absent head absent).imp_right fun ⟨l, own, answer⟩ => ?_
    have dead := (kept own).hasDeleted deleted
    have notLive := fun live => (soundTable l (by simp [own])).not_hasDeleted live dead
    rw [answer, TableState.explanation_eq_alreadyDeleted.2 ⟨notLive, dead⟩]
  · constructor
    · rintro ⟨text, answer⟩
      obtain ⟨u, l, own, explains⟩ :=
        outcome.lookup_of_missing answer (Or.inr (Or.inr ⟨text, rfl⟩))
      exact ⟨u, l, own, TableState.explanation_eq_internal.1 ⟨text, explains.symm⟩⟩
    · rintro ⟨u, l, own, live⟩
      obtain ⟨text, explains⟩ := TableState.explanation_eq_internal.2 live
      exact ⟨text, by rw [(outcome.of_lookup own).2.2, explains]⟩
  · intro u l own live
    obtain ⟨notLive, same, _⟩ := outcome.of_lookup own
    -- a deleted row would still be deleted at the look-up
    have absent : ¬ (u.before.get (calls i).2.table).Has id := by
      rw [TableState.has_iff]
      rintro (before | deleted)
      · exact notLive before
      · exact (soundTable l (by simp [own])).not_hasDeleted live ((kept own).hasDeleted deleted)
    obtain ⟨before, middle, after, log, others, linked, sub⟩ := follows.between_own own
    obtain ⟨j, e, member, begins, ends, applies, ok⟩ := follows.begins linked sub
      (P := fun accounts => (accounts.get (calls i).2.table).Has id) (same ▸ absent)
      (TableState.has_iff.2 (Or.inl live))
    obtain ⟨table, cells, insertion⟩ :=
      applies.begins_has ((calls j).2.lawful_change (calls j).1) begins ends
    exact ⟨absent, before, middle, after, j, e, log, member, others _ member,
      ⟨table.symm, cells, insertion⟩, ok, begins, ends⟩

/-! ## Deletions of one row -/

theorem Follows.of_deletes (follows : world.Follows calls first) (deletes : Deletes calls t id i)
    (ok : world.Succeeds i) :
    ∃ u, (i, u) ∈ world.log ∧ (u.before.get t).HasLive id ∧ (u.after.get t).HasDeleted id := by
  obtain ⟨rfl, deletion⟩ := deletes
  rcases follows.cases i with ⟨_, failed⟩ | ⟨earlier, last, own, _, applies, _⟩
  · exact absurd ok (failed id (by rw [deletion]; rfl))
  · rw [deletion] at applies
    exact ⟨last, mem_sentBy.1 (by rw [own]; simp), applies.of_deletion⟩

theorem Follows.deletes_unique (follows : world.Follows calls first) (sound : first.Sound)
    (left : Deletes calls t id i) (leftOk : world.Succeeds i) (right : Deletes calls t id j)
    (rightOk : world.Succeeds j) : i = j := by
  refine Classical.byContradiction fun other => ?_
  obtain ⟨u, sentLeft, leftLive, leftDead⟩ := follows.of_deletes left leftOk
  obtain ⟨v, sentRight, rightLive, rightDead⟩ := follows.of_deletes right rightOk
  -- the later of the two would have found the row deleted
  rcases exists_order other sentLeft sentRight with ⟨before, middle, after, log⟩ |
    ⟨before, middle, after, log⟩
  · have dead := (follows.kept_between log).hasDeleted leftDead
    exact (follows.sound_before sound sentRight t).not_hasDeleted rightLive dead
  · have dead := (follows.kept_between log).hasDeleted rightDead
    exact (follows.sound_before sound sentLeft t).not_hasDeleted leftLive dead

/-- A deletion that finds the row, live or deleted, is that of the client that succeeds or comes
after it. -/
theorem Follows.exists_deletes (follows : world.Follows calls first) (sound : first.Sound)
    (absent : ¬ (first.get t).HasDeleted id) (deletes : Deletes calls t id i) {u : Exchange}
    (head : (world.sentBy i).head? = some u) (present : (u.before.get t).Has id) :
    ∃ j, Deletes calls t id j ∧ world.Succeeds j := by
  have member := mem_sentBy.1 (List.mem_of_mem_head? head)
  rcases TableState.has_iff.1 present with live | dead
  · obtain ⟨rfl, deletion⟩ := deletes
    have target : ((calls i).2.change (calls i).1).modified? = some id := by rw [deletion]; rfl
    have outcome := follows.modification sound target
    refine ⟨i, ⟨rfl, deletion⟩, outcome.ok_iff.2 ⟨u, head, live, ?_⟩⟩
    exact Classical.byContradiction fun refused => (outcome.of_refused head refused).2.1 deletion
  · -- another deletion has come first
    obtain ⟨part, sub, linked⟩ := follows.first_part member
    obtain ⟨j, e, _, begins, ends, applies, ok⟩ := follows.begins linked sub
      (P := fun accounts => (accounts.get t).HasDeleted id) absent dead
    obtain ⟨table, deletion⟩ :=
      applies.begins_hasDeleted ((calls j).2.lawful_change (calls j).1) begins ends
    exact ⟨j, ⟨table.symm, deletion⟩, ok⟩

end World

/-- From reachable tables, in every order of turns: what the answers of updates and deletions say;
calls that do not succeed change nothing; and of the deletions of a row that is live at the start,
or created since, exactly one succeeds. -/
theorem concurrent_modifications (calls : ι → Stamp × Step) {accounts : Accounts}
    (reachable : Reachable accounts) (schedule : List (ι × Turn)) :
    let world := World.play calls accounts schedule
    (∀ i id, ((calls i).2.change (calls i).1).modified? = some id →
      Modified calls world (calls i).2.table id i) ∧
    (∀ i, ¬ world.Succeeds i → ∀ e ∈ world.sentBy i, e.after = e.before) ∧
    ∀ t id, (∃ i u, Deletes calls t id i ∧ (world.sentBy i).head? = some u ∧
        ((accounts.get t).HasLive id ∨ ¬ (accounts.get t).Has id ∧ (u.before.get t).Has id)) →
      ∃ i, (Deletes calls t id i ∧ world.Succeeds i) ∧
        ∀ j, Deletes calls t id j ∧ world.Succeeds j → j = i := by
  intro world
  have follows : world.Follows calls accounts := World.follows_play calls accounts schedule
  refine ⟨fun i id target => follows.modified reachable.sound target, ?_, ?_⟩
  · intro i failed
    rcases follows.cases i with ⟨same, _⟩ | ⟨_, _, _, _, _, _, ok⟩
    · exact same
    · exact absurd ok failed
  · rintro t id ⟨i, u, deletes, head, there⟩
    have member := World.mem_sentBy.1 (List.mem_of_mem_head? head)
    have found : ¬ (accounts.get t).HasDeleted id ∧ (u.before.get t).Has id := by
      rcases there with live | ⟨absent, present⟩
      · refine ⟨(reachable.sound t).not_hasDeleted live, ?_⟩
        exact (follows.kept_before member).has (TableState.has_iff.2 (Or.inl live))
      · exact ⟨fun dead => absent (TableState.has_iff.2 (Or.inr dead)), present⟩
    obtain ⟨j, winner, ok⟩ := follows.exists_deletes reachable.sound found.1 deletes head found.2
    exact ⟨j, ⟨winner, ok⟩, fun k other =>
      follows.deletes_unique reachable.sound other.1 other.2 winner ok⟩

/-- Two clients delete the same user; the second one is told that it is deleted already. -/
theorem concurrent_modifications_of_two_deletions :
    let accounts := (runSteps Accounts.driver ⟨0, 30000⟩
      [(⟨"", .epoch⟩, .user (.store (.create { id := "a", phoneNumber := "+1" })))] .empty).2
    let calls : Fin 2 → Stamp × Step := fun _ => (⟨"", .epoch⟩, .user (.store (.delete "a")))
    let world := World.play calls accounts
      [(0, .proceed .epoch), (1, .proceed .epoch), (1, .proceed .epoch)]
    (∃ i, (Deletes calls .users "a" i ∧ world.Succeeds i) ∧
        ∀ j, Deletes calls .users "a" j ∧ world.Succeeds j → j = i) ∧
      (∃ u l, world.sentBy 1 = [u, l] ∧ (l.before.get .users).HasDeleted "a") ∧
      ∀ e ∈ world.sentBy 1, e.after = e.before := by
  intro accounts calls world
  have reachable : Reachable accounts := Reachable.empty.runSteps _ _
  obtain ⟨answers, unchanged, unique⟩ := concurrent_modifications calls reachable
    [(0, .proceed .epoch), (1, .proceed .epoch), (1, .proceed .epoch)]
  have answer : world.answer? 1 = some (.error .alreadyDeleted) := rfl
  refine ⟨unique .users "a" ⟨0, _, ⟨rfl, rfl⟩, rfl, Or.inl (by decide)⟩,
    (answers 1 "a" rfl).alreadyDeleted answer, unchanged 1 ?_⟩
  rintro ⟨a, ok⟩
  exact absurd (answer.symm.trans ok) nofun

end AccountStore

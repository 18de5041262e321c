import AccountStore.Proofs.Interleaving.Modification
import Mathlib

/-!
# Concurrent creations

A creation asks whether the contact details are taken before it inserts, and other clients may take
or free them in between. `concurrent_creations` says that nothing depends on that answer: contact
details stay unique, no insertion is lost or doubled, and two creations with the same details both
succeed only if a deletion or an update frees them between their insertions.
-/

namespace AccountStore
open Memory

variable {ι : Type} [DecidableEq ι] {calls : ι → Stamp × Step} {first : Accounts} {world : World ι}
  {i j : ι} {t : Table} {id : String} {cells : List (Column × Value)}

/-- The exchange appends the row of the cells, and nothing else changes. -/
def Exchange.Inserts (e : Exchange) (t : Table) (cells : List (Column × Value)) : Prop :=
  e.after = e.before.set t { e.before.get t with
    rows := (e.before.get t).rows ++ [Row.ofCells (e.before.get t).next cells],
    next := (e.before.get t).next + 1 }

/-- How many rows an exchange adds to a table. -/
def Exchange.growth (t : Table) (e : Exchange) : Nat :=
  (e.after.get t).rows.length - (e.before.get t).rows.length

theorem Exchange.Inserts.growth {e : Exchange} (inserts : e.Inserts t cells) : e.growth t = 1 := by
  unfold Exchange.Inserts at inserts
  rw [Exchange.growth, inserts, Accounts.get_set]
  simp

def Replaces (calls : ι → Stamp × Step) (t : Table) (id : String) (i : ι) : Prop :=
  (calls i).2.table = t ∧ ∃ cells, (calls i).2.change (calls i).1 = .replacement id cells

/-- The client's call inserts a row that holds a value. -/
def CreatesWith (calls : ι → Stamp × Step) (t : Table) (c : Column) (v : Value) (i : ι) : Prop :=
  ∃ cells, (calls i).2.insertion? t (calls i).1 = some cells ∧ ∀ n, Row.ofCells n cells c = v

namespace World

/-! ## Counting insertions -/

instance (world : World ι) (i : ι) : Decidable (world.Succeeds i) :=
  decidable_of_iff ((world.answer? i).any Except.isOk = true) (by
    unfold Succeeds
    rcases world.answer? i with _ | ⟨_ | _⟩ <;> simp [Except.isOk, Except.toBool])

theorem Follows.creates (follows : world.Follows calls first)
    (creates : (calls i).2.insertion? t (calls i).1 = some cells) :
    (¬ world.Succeeds i ∧ ∀ e ∈ world.sentBy i, e.after = e.before) ∨
      world.Succeeds i ∧ ∃ earlier last, world.sentBy i = earlier ++ [last] ∧
        (∀ e ∈ earlier, e.after = e.before) ∧ last.Inserts t cells := by
  obtain ⟨rfl, id, insertion⟩ := Step.insertion?_eq_some.1 creates
  rcases follows.cases i with ⟨same, failed⟩ | ⟨earlier, last, own, others, applies, _, ok⟩
  · exact Or.inl ⟨failed id (by rw [insertion]; rfl), same⟩
  · rw [insertion] at applies
    exact Or.inr ⟨ok, earlier, last, own, others, applies.of_insertion⟩

theorem Follows.growth (follows : world.Follows calls first) (t : Table) (i : ι) :
    ((world.sentBy i).map (Exchange.growth t)).sum =
      if ((calls i).2.insertion? t (calls i).1).isSome ∧ world.Succeeds i then 1 else 0 := by
  have unchanged : ∀ own : List Exchange, (∀ e ∈ own, e.after = e.before) →
      (own.map (Exchange.growth t)).sum = 0 := by
    intro own same
    refine List.sum_eq_zero fun n member => ?_
    obtain ⟨e, there, rfl⟩ := List.mem_map.1 member
    rw [Exchange.growth, same e there, Nat.sub_self]
  cases creates : (calls i).2.insertion? t (calls i).1 with
  | some cells =>
      rcases follows.creates creates with ⟨failed, same⟩ | ⟨ok, earlier, last, own, same, inserts⟩
      · rw [unchanged _ same, if_neg fun h => failed h.2]
      · -- only the last exchange adds a row
        rw [own, List.map_append, List.sum_append, unchanged _ same, if_pos ⟨rfl, ok⟩]
        simp [inserts.growth]
  | none =>
      rw [if_neg fun h => absurd h.1 nofun]
      rcases follows.cases i with ⟨same, _⟩ | ⟨earlier, last, own, same, applies, _⟩
      · exact unchanged _ same
      · have length := applies.length_of_not_insertion (u := t) fun table id cells insertion => by
          rw [Step.insertion?_eq_some.2 ⟨table.symm, id, insertion⟩] at creates
          exact absurd creates nofun
        rw [own, List.map_append, List.sum_append, unchanged _ same]
        simp [Exchange.growth, length]

theorem sum_ownOf [Fintype ι] (f : Exchange → Nat) (log : List (ι × Exchange)) :
    (log.map fun sent => f sent.2).sum = ∑ i, ((ownOf i log).map f).sum := by
  induction log with
  | nil => simp [ownOf]
  | cons sent rest ih =>
      obtain ⟨j, e⟩ := sent
      have own : ∀ i, ((ownOf i ((j, e) :: rest)).map f).sum =
          (if j = i then f e else 0) + ((ownOf i rest).map f).sum := by
        intro i
        by_cases same : j = i <;> simp [ownOf, same]
      simp only [List.map_cons, List.sum_cons, ih, own, Finset.sum_add_distrib, Finset.sum_ite_eq,
        Finset.mem_univ, if_true]

theorem length_of_linked {a b : Accounts} {log : List Exchange} (linked : Linked a log b)
    (grows : ∀ e ∈ log, e.before.Kept e.after) :
    (b.get t).rows.length = (a.get t).rows.length + (log.map (Exchange.growth t)).sum := by
  induction log generalizing a with
  | nil =>
      cases linked
      rfl
  | cons e rest ih =>
      obtain ⟨rfl, linked⟩ := linked
      have later := ih linked fun e member => grows e (List.mem_cons_of_mem _ member)
      have longer := (grows e List.mem_cons_self t).length_le
      rw [later, List.map_cons, List.sum_cons, Exchange.growth]
      omega

theorem Follows.rows_length [Fintype ι] (follows : world.Follows calls first) (t : Table) :
    (world.accounts.get t).rows.length = (first.get t).rows.length +
      (Finset.univ.filter fun i =>
        ((calls i).2.insertion? t (calls i).1).isSome ∧ world.Succeeds i).card := by
  have grows : ∀ e ∈ world.log.map (·.2), e.before.Kept e.after := by
    intro e member
    obtain ⟨⟨i, e⟩, there, rfl⟩ := List.mem_map.1 member
    exact follows.kept_exchange there
  rw [length_of_linked follows.linked grows, List.map_map, Finset.card_filter]
  congr 1
  exact (sum_ownOf (Exchange.growth t) world.log).trans
    (Finset.sum_congr rfl fun i _ => follows.growth t i)

/-! ## Two creations with the same value -/

end World

namespace Exchange.Inserts

variable {e : Exchange} {c : Column} {v : Value}

theorem liveWith (inserts : e.Inserts t cells) (lawful : (Change.insertion id cells).Lawful t)
    (holds : ∀ n, Row.ofCells n cells c = v) : (e.after.get t).LiveWith id c v := by
  unfold Inserts at inserts
  rw [inserts, Accounts.get_set]
  exact ⟨_, List.mem_append_right _ List.mem_cons_self, (lawful _).2, (lawful _).1.isLive, holds _⟩

theorem not_liveWith (inserts : e.Inserts t cells) (lawful : (Change.insertion id cells).Lawful t)
    (sound : e.after.Sound) (unique : c ∈ t.liveUnique) (holds : ∀ n, Row.ofCells n cells c = v)
    (other : String) : ¬ (e.before.get t).LiveWith other c v := by
  rintro ⟨row, member, _, live, held⟩
  have distinct := (sound t).distinctLive
  unfold Inserts at inserts
  rw [inserts, Accounts.get_set, TableState.DistinctLive, List.filter_append,
    List.pairwise_append] at distinct
  have new := (lawful (e.before.get t).next).1
  -- the index of the table after the insertion compares the old row with the new one
  have differs := distinct.2.2 row (List.mem_filter.2 ⟨member, live⟩) _
    (List.mem_filter.2 ⟨List.mem_cons_self, new.isLive⟩) c unique
  have text := new.typed.unique unique
  rw [holds] at differs text
  rw [held] at differs
  exact (Value.same_eq_false_of_text text).1 differs rfl

end Exchange.Inserts

/-- Between the insertions of two clients a third one frees the value of the first one's row. -/
def Freed (calls : ι → Stamp × Step) (world : World ι) (t : Table) (c : Column) (v : Value)
    (i j : ι) : Prop :=
  ∃ before middle after p q k e id,
    world.log = before ++ (i, p) :: (middle ++ (j, q) :: after) ∧ (k, e) ∈ middle ∧
      (∃ cells, p.Inserts t cells) ∧ (∃ cells, q.Inserts t cells) ∧
      Creates calls t id i ∧ (e.before.get t).LiveWith id c v ∧
      (Deletes calls t id k ∧ (e.after.get t).HasDeleted id ∨
        Replaces calls t id k ∧ ∃ other, other ≠ v ∧ (e.after.get t).LiveWith id c other)

namespace World

theorem Follows.sound_after (follows : world.Follows calls first) (sound : first.Sound)
    {e : Exchange} (member : (i, e) ∈ world.log) : e.after.Sound := by
  have before := follows.sound_before sound member
  rcases follows.exchange member with same | ⟨applies, _⟩
  · exact same ▸ before
  · exact applies.sound ((calls i).2.lawful_change (calls i).1) before

variable {c : Column} {v : Value}

theorem Follows.insertion (follows : world.Follows calls first) (sound : first.Sound)
    (unique : c ∈ t.liveUnique) (creates : CreatesWith calls t c v i) (ok : world.Succeeds i) :
    ∃ e id, (i, e) ∈ world.log ∧ (∃ cells, e.Inserts t cells) ∧ Creates calls t id i ∧
      (e.after.get t).LiveWith id c v ∧ ∀ other, ¬ (e.before.get t).LiveWith other c v := by
  obtain ⟨cells, creates, holds⟩ := creates
  obtain ⟨table, id, insertion⟩ := Step.insertion?_eq_some.1 creates
  rcases follows.creates creates with ⟨failed, _⟩ | ⟨_, earlier, last, own, _, inserts⟩
  · exact absurd ok failed
  · have lawful := (calls i).2.lawful_change (calls i).1
    rw [insertion, table] at lawful
    have sent : (i, last) ∈ world.log := mem_sentBy.1 (by simp [own])
    have after := follows.sound_after sound sent
    exact ⟨last, id, sent, ⟨cells, inserts⟩, ⟨table, cells, insertion⟩,
      inserts.liveWith lawful holds, inserts.not_liveWith lawful after unique holds⟩

theorem Follows.freed_between (follows : world.Follows calls first) (unique : c ∈ t.liveUnique)
    {before middle after : List (ι × Exchange)} {p q : Exchange}
    (log : world.log = before ++ (i, p) :: (middle ++ (j, q) :: after))
    (taken : (p.after.get t).LiveWith id c v) (free : ¬ (q.before.get t).LiveWith id c v) :
    ∃ k e, (k, e) ∈ middle ∧ (e.before.get t).LiveWith id c v ∧
      (Deletes calls t id k ∧ (e.after.get t).HasDeleted id ∨
        Replaces calls t id k ∧ ∃ other, other ≠ v ∧ (e.after.get t).LiveWith id c other) := by
  have sub : middle ⊆ world.log := fun sent member => by
    rw [log]
    simp [member]
  obtain ⟨k, e, member, held, lost, applies, _⟩ := follows.begins (follows.between log) sub
    (P := fun accounts => ¬ (accounts.get t).LiveWith id c v) (fun h => h taken) free
  have held := Classical.not_not.1 held
  obtain ⟨table, ended⟩ :=
    applies.ends_liveWith ((calls k).2.lawful_change (calls k).1) unique held lost
  refine ⟨k, e, member, held, ?_⟩
  rcases ended with ⟨deletion, dead⟩ | ⟨replacement, changed⟩
  · exact Or.inl ⟨⟨table.symm, deletion⟩, dead⟩
  · exact Or.inr ⟨⟨table.symm, replacement⟩, changed⟩

theorem Follows.freed (follows : world.Follows calls first) (sound : first.Sound)
    (unique : c ∈ t.liveUnique) (other : i ≠ j) (left : CreatesWith calls t c v i)
    (right : CreatesWith calls t c v j) (leftOk : world.Succeeds i) (rightOk : world.Succeeds j) :
    Freed calls world t c v i j ∨ Freed calls world t c v j i := by
  obtain ⟨p, id, sent, inserts, creates, taken, free⟩ :=
    follows.insertion sound unique left leftOk
  obtain ⟨q, id', sent', inserts', creates', taken', free'⟩ :=
    follows.insertion sound unique right rightOk
  rcases exists_order other sent sent' with ⟨before, middle, after, log⟩ |
    ⟨before, middle, after, log⟩
  · obtain ⟨k, e, member, ended⟩ := follows.freed_between unique log taken (free' id)
    exact Or.inl ⟨before, middle, after, p, q, k, e, id, log, member, inserts, inserts', creates,
      ended⟩
  · obtain ⟨k, e, member, ended⟩ := follows.freed_between unique log taken' (free id')
    exact Or.inr ⟨before, middle, after, q, p, k, e, id', log, member, inserts', inserts, creates',
      ended⟩

end World

/-- From reachable tables, in every order of turns and after each of them: unique values are unique
among live rows; a creation that succeeds has inserted its row once, and one that does not has
changed nothing; a table has one row more for every creation that has succeeded; and two creations
with the same unique value both succeed only if it is freed between their insertions. -/
theorem concurrent_creations [Fintype ι] (calls : ι → Stamp × Step) {accounts : Accounts}
    (reachable : Reachable accounts) (schedule : List (ι × Turn)) (t : Table) :
    let world := World.play calls accounts schedule
    (∀ n, ∀ c ∈ t.liveUnique,
      (((World.play calls accounts (schedule.take n)).accounts.get t).live.map (· c)).Nodup) ∧
    (∀ i cells, (calls i).2.insertion? t (calls i).1 = some cells →
      (¬ world.Succeeds i ∧ ∀ e ∈ world.sentBy i, e.after = e.before) ∨
        world.Succeeds i ∧ ∃ earlier last, world.sentBy i = earlier ++ [last] ∧
          (∀ e ∈ earlier, e.after = e.before) ∧ last.Inserts t cells) ∧
    (world.accounts.get t).rows.length = (accounts.get t).rows.length +
      (Finset.univ.filter fun i =>
        ((calls i).2.insertion? t (calls i).1).isSome ∧ world.Succeeds i).card ∧
    ∀ c ∈ t.liveUnique, ∀ v i j, i ≠ j → CreatesWith calls t c v i → CreatesWith calls t c v j →
      world.Succeeds i → world.Succeeds j →
        Freed calls world t c v i j ∨ Freed calls world t c v j i := by
  intro world
  have follows : world.Follows calls accounts := World.follows_play calls accounts schedule
  refine ⟨fun n c unique => ?_, fun i cells => follows.creates, follows.rows_length t, ?_⟩
  · have part := World.follows_play calls accounts (schedule.take n)
    exact (part.sound_part part.linked (List.Subset.refl _) reachable.sound t).nodup_live unique
  · intro c unique v i j other left right leftOk rightOk
    exact follows.freed reachable.sound unique other left right leftOk rightOk

/-- Two users are created with the same phone number. The second creation is told that it is free
before the first one takes it, and succeeds because the first user is deleted in time. -/
theorem concurrent_creations_of_same_phoneNumber :
    let create (id : String) : Stamp × Step :=
      (⟨"", .epoch⟩, .user (.service (.create { id, phoneNumber := "+1" })))
    let calls : Fin 3 → Stamp × Step
      | 0 => create "a"
      | 1 => create "b"
      | 2 => (⟨"", .epoch⟩, .user (.store (.delete "a")))
    let turn (i : Fin 3) : Fin 3 × Turn := (i, .proceed .epoch)
    let world := World.play calls .empty ([1, 1, 0, 0, 0, 0, 2, 1, 1].map turn)
    Reachable .empty ∧ world.Succeeds 0 ∧ world.Succeeds 1 ∧
      (Freed calls world .users .phoneNumber (.text (some "+1")) 0 1 ∨
        Freed calls world .users .phoneNumber (.text (some "+1")) 1 0) := by
  intro create calls turn world
  obtain ⟨_, _, _, freed⟩ := concurrent_creations calls .empty
    ([1, 1, 0, 0, 0, 0, 2, 1, 1].map turn) .users
  have leftOk : world.Succeeds 0 := by decide
  have rightOk : world.Succeeds 1 := by decide
  refine ⟨.empty, leftOk, rightOk, ?_⟩
  exact freed .phoneNumber (by decide) _ 0 1 (by decide) ⟨_, rfl, fun n => rfl⟩
    ⟨_, rfl, fun n => rfl⟩ leftOk rightOk

end AccountStore

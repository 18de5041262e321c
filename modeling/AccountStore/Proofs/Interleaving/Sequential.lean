import AccountStore.Proofs.Interleaving.World

/-!
# Calls one after another

A call that is made alone is one of the ways in which clients take turns (`exists_turns_of_run`),
and clients that take turns lead to no tables that calls one after another do not lead to
(`Reachable.play`).
-/

namespace AccountStore
open Calendar Memory

/-! ## A call that is made alone -/

namespace World

variable {ι : Type} [DecidableEq ι] {calls : ι → Stamp × Step} {world : World ι} {i : ι}

theorem turn_of_exchange? {now : Instant} {e : Exchange} {next : Program StepAnswer}
    (sent : (world.running i).exchange? now world.accounts = some (e, next)) :
    world.turn calls (i, .proceed now) = world.record i e next := by
  cases running : world.running i with
  | done | pause =>
      rw [running] at sent
      exact absurd sent nofun
  | execute | query =>
      rw [running] at sent
      simp only [World.turn, running, sent]

/-- The turns of one client can make its program go on in every way in which it may. -/
theorem exists_turns {p q : Program StepAnswer} {own : List Exchange} {last : Accounts}
    (becomes : p.Becomes (calls i).2.operation own q) (running : world.running i = p)
    (linked : Linked world.accounts own last) :
    ∃ turns : List Turn,
      let final := (turns.map fun turn => (i, turn)).foldl (World.turn calls) world
      final.running i = q ∧ final.accounts = last := by
  induction becomes generalizing world with
  | refl => exact ⟨[], running, linked⟩
  | @resume next _ _ _ ih =>
      have resumes : world.turn calls (i, .proceed .epoch) = world.goOn i next := by
        simp only [World.turn, running]
      have goesOn : (world.goOn i next).running i = next := running_goOn
      obtain ⟨turns, final⟩ := ih goesOn linked
      exact ⟨.proceed .epoch :: turns, by simpa only [List.map_cons, List.foldl_cons, resumes]⟩
  | expire next =>
      cases linked
      refine ⟨[.expire], ?_⟩
      simp only [List.map_cons, List.map_nil, List.foldl_cons, List.foldl_nil, World.turn, running]
      exact ⟨running_goOn, rfl⟩
  | @exchange now accounts p next _ e own sent _ ih =>
      obtain ⟨before, linked⟩ := linked
      obtain rfl := (Program.before_of_exchange? sent).1.symm.trans before
      have records : world.turn calls (i, .proceed now) = world.record i e next :=
        turn_of_exchange? (running ▸ sent)
      have goesOn : (world.record i e next).running i = next := running_record
      obtain ⟨turns, final⟩ := ih goesOn linked
      exact ⟨.proceed now :: turns, by simpa only [List.map_cons, List.foldl_cons, records]⟩

theorem exists_turns_of_run (calls : ι → Stamp × Step) (i : ι) (timing : Timing) (now : Instant)
    (accounts : Accounts) :
    let run := (calls i).2.run (Accounts.driver now) timing (calls i).1 accounts
    ∃ turns : List Turn,
      let world := World.play calls accounts (turns.map fun turn => (i, turn))
      world.answer? i = some run.1 ∧ world.accounts = run.2 := by
  intro run
  obtain ⟨own, becomes, linked, _⟩ := ((calls i).2.program (calls i).1).goesAlone now
    ((calls i).2.timing timing) (calls i).2.operation 0 accounts
  rw [← Step.run_eq] at becomes linked
  obtain ⟨turns, answers, final⟩ :=
    exists_turns becomes (show (World.start calls accounts).running i = _ from rfl) linked
  exact ⟨turns, Program.answer?_eq_some.2 answers, final⟩

end World

/-! ## Reachable tables -/

section Calls

variable {α : Type} [Account α]

/-- For a call that may write there is one of the same change that only writes. -/
theorem StoreCall.exists_execute (call : StoreCall α) {s : Statement}
    (writes : call.change.Writes (Account.table α) s) :
    ∃ (bare : StoreCall α) (s' : Statement) (next : Except DriverError Nat → Program (Answer α)),
      bare.change = call.change ∧ bare.program = .execute s' next ∧
        ∀ now state after, TableState.Changes now state s after →
          TableState.Changes now state s' after := by
  -- both creations insert the same row; only one of them has it returned
  have insertion : ∀ a : α, (StoreCall.create a).change.Writes (Account.table α) s →
      ∃ (s' : Statement) (next : Except DriverError Nat → Program (Answer α)),
        (StoreCall.create a).program = .execute s' next ∧
          ∀ now state after, TableState.Changes now state s after →
            TableState.Changes now state s' after := by
    rintro a ⟨returning, rfl⟩
    refine ⟨_, _, congrArg (Answer.id <$> ·) (Store.create_eq a), fun now state after change => ?_⟩
    cases change with
    | inserted means admitted =>
        cases means
        exact .inserted rfl admitted
    | updated means => cases means
  cases call with
  | create a | createAndFetch a =>
      obtain ⟨s', next, program, changes⟩ := insertion a writes
      exact ⟨.create a, s', next, rfl, program, changes⟩
  | update a =>
      cases writes
      exact ⟨.update a, _, _, rfl, congrArg ((fun _ => Answer.done) <$> ·) (Store.update_eq a),
        fun _ _ _ change => change⟩
  | delete id =>
      cases writes
      exact ⟨.delete id, _, _, rfl, rfl, fun _ _ _ change => change⟩
  | changePassword contact password =>
      cases writes
      exact ⟨.changePassword contact password, _, _, rfl, rfl, fun _ _ _ change => change⟩
  | updateRefreshToken id token =>
      cases writes
      exact ⟨.updateRefreshToken id token, _, _, rfl, rfl, fun _ _ _ change => change⟩
  | get | list | checkField | ifExists => exact writes.elim

theorem Call.exists_store (stamp : Stamp) (call : Call α) :
    ∃ store : StoreCall α, store.change = call.change stamp := by
  cases call with
  | store call => exact ⟨call, rfl⟩
  | service call =>
      cases call with
      | create a => exact ⟨.create (Account.assignIdentity stamp a), rfl⟩
      | update a => exact ⟨.update (Account.touch stamp.now a), rfl⟩
      | delete id => exact ⟨.delete id, rfl⟩
      | changePassword contact password => exact ⟨.changePassword contact password, rfl⟩
      | updateRefreshToken id token => exact ⟨.updateRefreshToken id token, rfl⟩
      | get id => exact ⟨.get id, rfl⟩
      | list | checkField | ifExists => exact ⟨.get "", rfl⟩

variable [Account.Lawful α] {now : Instant} {before after : Accounts}

theorem Call.exists_run (stamp : Stamp) (call : Call α)
    (applies : (call.change stamp).Applies (Account.table α) now before after) :
    ∃ store : StoreCall α, (store.program.run (Accounts.driver now) before).2 = after := by
  obtain ⟨s, state, writes, change, rfl⟩ := applies
  obtain ⟨store, same⟩ := call.exists_store stamp
  rw [← same] at writes
  obtain ⟨bare, s', next, sameBare, program, changes⟩ := store.exists_execute writes
  obtain ⟨n, run⟩ := (changes _ _ _ change).execute
  have makes := bare.makes_program
  rw [program] at makes
  obtain ⟨a, ends⟩ := makes.2.1 n
  refine ⟨bare, ?_⟩
  rw [program]
  simp only [Program.run, Accounts.execute_eq makes.1.table run, ends]

end Calls

theorem Reachable.applies {stamp : Stamp} {step : Step} {now : Instant} {before after : Accounts}
    (reachable : Reachable before)
    (applies : (step.change stamp).Applies step.table now before after) : Reachable after := by
  cases step with
  | user call =>
      obtain ⟨store, rfl⟩ := call.exists_run stamp applies
      exact .step ⟨0, 0⟩ now stamp (.user (.store store)) reachable
  | admin call =>
      obtain ⟨store, rfl⟩ := call.exists_run stamp applies
      exact .step ⟨0, 0⟩ now stamp (.admin (.store store)) reachable

theorem Reachable.play {ι : Type} [DecidableEq ι] {accounts : Accounts}
    (reachable : Reachable accounts) (calls : ι → Stamp × Step) (schedule : List (ι × Turn)) :
    Reachable (World.play calls accounts schedule).accounts := by
  have follows := World.follows_play calls accounts schedule
  refine follows.linked.preserves reachable fun e member before => ?_
  obtain ⟨⟨i, e⟩, there, rfl⟩ := List.mem_map.1 member
  rcases follows.exchange there with same | ⟨applies, _⟩
  · rw [same]
    exact before
  · exact before.applies applies

end AccountStore

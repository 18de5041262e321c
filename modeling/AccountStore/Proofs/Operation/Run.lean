import AccountStore.Proofs.Operation.Exchange

/-!
# Running steps on the account tables

A step either leaves both tables as they are or makes its change, by one statement that takes
effect, and then succeeds. Reachable tables are those that steps lead to from empty ones; they are
sound.
-/

namespace AccountStore
open Calendar Memory

namespace Program

variable {t : Table} {c : Change} {p : Program α} {now : Instant} {timing : Timing}
  {operation : String} {elapsed : Nat} {accounts : Accounts}

theorem runWithin_of_exchange? {e : Exchange} {next : Program α}
    (sent : p.exchange? now accounts = some (e, next)) :
    p.runWithin (Accounts.driver now) timing operation elapsed accounts =
      next.runWithin (Accounts.driver now) timing operation elapsed e.after := by
  cases p with
  | done | pause => exact absurd sent nofun
  | execute | query =>
      cases sent
      rfl

/-- What the program makes of the tables when it runs alone is one of the ways in which it may go
on. -/
def GoesAlone (now : Instant) (timing : Timing) (operation : String) (elapsed : Nat)
    (accounts : Accounts) (p : Program α) : Prop :=
  let run := p.runWithin (Accounts.driver now) timing operation elapsed accounts
  ∃ own, p.Becomes operation own (.done run.1) ∧ Linked accounts own run.2 ∧ ∀ e ∈ own, e.now = now

theorem GoesAlone.exchange {e : Exchange} {next : Program α}
    (sent : p.exchange? now accounts = some (e, next))
    (goes : next.GoesAlone now timing operation elapsed e.after) :
    p.GoesAlone now timing operation elapsed accounts := by
  obtain ⟨own, becomes, linked, times⟩ := goes
  obtain ⟨before, time⟩ := before_of_exchange? sent
  unfold GoesAlone
  rw [runWithin_of_exchange? sent]
  exact ⟨e :: own, .exchange now accounts sent becomes, ⟨before, linked⟩,
    List.forall_mem_cons.2 ⟨time, times⟩⟩

theorem goesAlone (p : Program α) (now : Instant) (timing : Timing) (operation : String)
    (elapsed : Nat) (accounts : Accounts) :
    p.GoesAlone now timing operation elapsed accounts := by
  induction p generalizing elapsed accounts with
  | done r => exact ⟨[], .refl _, rfl, by simp⟩
  | execute s next ih | query s next ih => exact GoesAlone.exchange rfl (ih _ elapsed _)
  | pause next ih =>
      unfold GoesAlone Program.runWithin
      split
      · exact ⟨[], .expire _, rfl, by simp⟩
      · obtain ⟨own, becomes, rest⟩ := ih (elapsed + timing.pause) accounts
        exact ⟨own, .resume becomes, rest⟩

theorem Makes.runWithin (makes : p.Makes t c) :
    let run := p.runWithin (Accounts.driver now) timing operation elapsed accounts
    (run.2 = accounts ∧ (p.Needs → ∃ e, run.1 = .error e)) ∨
      c.Applies t now accounts run.2 ∧ ∃ a, run.1 = .ok a := by
  intro run
  obtain ⟨own, becomes, linked, times⟩ := goesAlone p now timing operation elapsed accounts
  have unchanged : ∀ {log b}, Linked accounts log b → (∀ e ∈ log, e.after = e.before) →
      b = accounts := fun linked same =>
    linked.preserves (P := (· = accounts)) rfl fun e member before => (same e member).trans before
  rcases makes.becomes becomes with ⟨same, _, needs⟩ |
    ⟨earlier, last, rfl, same, applies, _, a, ok⟩
  · refine Or.inl ⟨unchanged linked same, fun h => ?_⟩
    obtain ⟨e, failed⟩ := needs h
    exact ⟨e, failed⟩
  · obtain ⟨b, first, before, after⟩ := Linked.append.1 linked
    rw [times last (by simp), before, unchanged first same] at applies
    exact Or.inr ⟨after ▸ applies, a, Program.done.inj ok⟩

theorem Makes.runWithin_error (makes : p.Makes t c) {e : AccountError}
    (failed : (p.runWithin (Accounts.driver now) timing operation elapsed accounts).1 = .error e) :
    (p.runWithin (Accounts.driver now) timing operation elapsed accounts).2 = accounts := by
  rcases makes.runWithin with ⟨same, _⟩ | ⟨_, a, ok⟩
  · exact same
  · exact absurd (failed.symm.trans ok) nofun

theorem runWithin_map (driver : Driver σ) (f : α → β) (p : Program α) (state : σ) :
    (f <$> p).runWithin driver timing operation elapsed state =
      ((p.runWithin driver timing operation elapsed state).1.map f,
        (p.runWithin driver timing operation elapsed state).2) := by
  change (p.bind (pure ∘ f)).runWithin driver timing operation elapsed state = _
  induction p generalizing elapsed state with
  | done r => cases r <;> rfl
  | execute s next ih | query s next ih => exact ih _ _
  | pause next ih =>
      simp only [bind, Program.runWithin]
      split
      · rfl
      · exact ih state

end Program

/-! ## Steps -/

def Call.timing {α : Type} [Account α] (timing : Timing) : Call α → Timing
  | .store _ => ⟨0, 0⟩
  | .service _ => timing

theorem Call.run_eq {α : Type} [Account α] (driver : Driver σ) (timing : Timing) (stamp : Stamp)
    (call : Call α) (state : σ) :
    call.run driver timing stamp state =
      (call.program stamp).runWithin driver (call.timing timing) call.operation 0 state := by
  cases call with
  | store call => exact (Program.runWithin_eq_run driver 0 "" 0 (Nat.le_refl 0) _ state).symm
  | service call => rfl

/-- A call does nothing or makes its change, and then succeeds. -/
theorem Call.run_cases {α : Type} [Account α] [Account.Lawful α] (timing : Timing) (now : Instant)
    (stamp : Stamp) (call : Call α) (accounts : Accounts) :
    let run := call.run (Accounts.driver now) timing stamp accounts
    (run.2 = accounts ∧ ∀ id, (call.change stamp).target? = some id → ∃ e, run.1 = .error e) ∨
      (call.change stamp).Applies (Account.table α) now accounts run.2 ∧ ∃ a, run.1 = .ok a := by
  rw [run_eq]
  exact (call.makes_program stamp).runWithin.imp_left
    (And.imp_right fun failed id target => failed (needs_program target))

theorem Call.applies_of_ok {α : Type} [Account α] [Account.Lawful α] {timing : Timing}
    {now : Instant} {stamp : Stamp} {call : Call α} {accounts : Accounts} {id : String}
    (target : (call.change stamp).target? = some id) {answer : Answer α}
    (ok : (call.run (Accounts.driver now) timing stamp accounts).1 = .ok answer) :
    (call.change stamp).Applies (Account.table α) now accounts
      (call.run (Accounts.driver now) timing stamp accounts).2 := by
  rcases call.run_cases timing now stamp accounts with ⟨_, failed⟩ | ⟨applies, _⟩
  · obtain ⟨e, error⟩ := failed id target
    exact absurd (ok.symm.trans error) nofun
  · exact applies

namespace Step

def timing (timing : Timing) : Step → Timing
  | user call => call.timing timing
  | admin call => call.timing timing

theorem run_eq (driver : Driver σ) (timing : Timing) (stamp : Stamp) (step : Step) (state : σ) :
    step.run driver timing stamp state =
      (step.program stamp).runWithin driver (step.timing timing) step.operation 0 state := by
  cases step with
  | user call =>
      simp only [Step.run, Step.program, Program.runWithin_map, Call.run_eq]
      rfl
  | admin call =>
      simp only [Step.run, Step.program, Program.runWithin_map, Call.run_eq]
      rfl

/-- A step does nothing or makes its change, and then succeeds. -/
theorem run_cases (timing : Timing) (now : Instant) (stamp : Stamp) (step : Step)
    (accounts : Accounts) :
    let run := step.run (Accounts.driver now) timing stamp accounts
    (run.2 = accounts ∧ ∀ id, (step.change stamp).target? = some id → ∃ e, run.1 = .error e) ∨
      (step.change stamp).Applies step.table now accounts run.2 ∧ ∃ a, run.1 = .ok a := by
  rw [run_eq]
  exact (step.makes_program stamp).runWithin.imp_left
    (And.imp_right fun failed id target => failed (needs_program target))

end Step

/-! ## Reachable tables -/

/-- Steps lead to these tables from empty ones. -/
inductive Reachable : Accounts → Prop
  | empty : Reachable .empty
  | step {accounts : Accounts} (timing : Timing) (now : Instant) (stamp : Stamp) (step : Step)
      (before : Reachable accounts) :
      Reachable (step.run (Accounts.driver now) timing stamp accounts).2

theorem Reachable.runSteps {accounts : Accounts} (reachable : Reachable accounts) (timing : Timing)
    (steps : List (Stamp × Step)) :
    Reachable (runSteps Accounts.driver timing steps accounts).2 := by
  induction steps generalizing accounts with
  | nil => exact reachable
  | cons head rest ih => exact ih (.step timing head.1.now head.1 head.2 reachable)

theorem Step.sound_run {accounts : Accounts} (sound : accounts.Sound) (timing : Timing)
    (now : Instant) (stamp : Stamp) (step : Step) :
    (step.run (Accounts.driver now) timing stamp accounts).2.Sound := by
  rcases step.run_cases timing now stamp accounts with ⟨same, _⟩ | ⟨applies, _⟩
  · rw [same]
    exact sound
  · exact applies.sound (step.lawful_change stamp) sound

theorem Memory.Accounts.Sound.runSteps {accounts : Accounts} (sound : accounts.Sound)
    (timing : Timing) (steps : List (Stamp × Step)) :
    (runSteps Accounts.driver timing steps accounts).2.Sound := by
  induction steps generalizing accounts with
  | nil => exact sound
  | cons head rest ih => exact ih (head.2.sound_run sound timing head.1.now head.1)

theorem Reachable.sound {accounts : Accounts} (reachable : Reachable accounts) :
    accounts.Sound := by
  induction reachable with
  | empty => exact Accounts.sound_empty
  | step timing now stamp step _ ih => exact step.sound_run ih timing now stamp

end AccountStore

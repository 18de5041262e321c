import AccountStore.Proofs.Operation.Failure
import AccountStore.Script

/-!
# The parts of a run

The pauses of a program cut what it sends into parts. Under a deadline a run either ends in time, and
is then the run without a deadline, or is cut off at a pause, and then it has sent the parts before
that pause. An untimed program has one part only and never says that time ran out.
-/

namespace AccountStore

theorem Script.log_execute (s : Statement) (script : Script) :
    (driver.execute s script).2.log = script.log ++ [s] := by
  simp only [driver, execute]
  split <;> rfl

theorem Script.log_query (s : Statement) (script : Script) :
    (driver.query s script).2.log = script.log ++ [s] := by
  simp only [driver, query]
  split <;> rfl

/-- The statements of a run, cut at its pauses. -/
structure Parts where
  /-- Those sent before the first pause. -/
  first : List Statement
  /-- Those sent after each pause. -/
  later : List (List Statement)

namespace Parts

def send (s : Statement) (parts : Parts) : Parts :=
  { parts with first := s :: parts.first }

def pause (parts : Parts) : Parts :=
  ⟨[], parts.first :: parts.later⟩

/-- What is sent before the pause after the `n`-th one. -/
def upTo (n : Nat) (parts : Parts) : List Statement :=
  parts.first ++ (parts.later.take n).flatten

def all (parts : Parts) : List Statement :=
  parts.first ++ parts.later.flatten

variable {n : Nat} {s : Statement} {parts : Parts}

@[simp] theorem send_later : (parts.send s).later = parts.later := rfl

@[simp] theorem send_first : (parts.send s).first = s :: parts.first := rfl

@[simp] theorem pause_later : parts.pause.later = parts.first :: parts.later := rfl

@[simp] theorem upTo_send : (parts.send s).upTo n = s :: parts.upTo n := rfl

@[simp] theorem upTo_pause_zero : parts.pause.upTo 0 = [] := rfl

@[simp] theorem upTo_pause_succ : parts.pause.upTo (n + 1) = parts.upTo n := rfl

@[simp] theorem all_send : (parts.send s).all = s :: parts.all := rfl

@[simp] theorem all_pause : parts.pause.all = parts.all := rfl

end Parts

namespace Program

/-- The parts of a run without a deadline. -/
def parts (driver : Driver σ) : Program α → σ → Parts
  | .done _, _ => ⟨[], []⟩
  | .execute s next, state =>
      let (answer, state) := driver.execute s state
      ((next answer).parts driver state).send s
  | .query s next, state =>
      let (answer, state) := driver.query s state
      ((next answer).parts driver state).send s
  | .pause next, state => (next.parts driver state).pause

section Parts

variable {driver : Driver σ} {p : Program α} {state : σ} {timing : Timing} {operation : String}
  {elapsed n : Nat}

theorem parts_map (driver : Driver σ) (f : α → β) (p : Program α) (state : σ) :
    (f <$> p).parts driver state = p.parts driver state := by
  change (p.bind (pure ∘ f)).parts driver state = _
  induction p generalizing state with
  | done r => cases r <;> rfl
  | execute s next ih | query s next ih => exact congrArg (Parts.send s) (ih _ _)
  | pause next ih => exact congrArg Parts.pause (ih state)

theorem run_map (driver : Driver σ) (f : α → β) (p : Program α) (state : σ) :
    (f <$> p).run driver state =
      ((p.run driver state).1.map f, (p.run driver state).2) := by
  change (p.bind (pure ∘ f)).run driver state = _
  rw [run_bind]
  obtain ⟨answer, after⟩ := p.run driver state
  cases answer <;> rfl

/-- A run without a deadline sends its parts. -/
theorem log_run (p : Program α) (script : Script) :
    (p.run Script.driver script).2.log = script.log ++ (p.parts Script.driver script).all := by
  induction p generalizing script with
  | done r => exact (List.append_nil _).symm
  | execute s next ih => simp [run, parts, ih, Script.log_execute]
  | query s next ih => simp [run, parts, ih, Script.log_query]
  | pause next ih => simpa [run, parts] using ih script

/-! ## In time and late -/

theorem runWithin_inTime
    (inTime : elapsed + (p.parts driver state).later.length * timing.pause ≤ timing.limit) :
    p.runWithin driver timing operation elapsed state = p.run driver state := by
  induction p generalizing elapsed state with
  | done r => rfl
  | execute s next ih | query s next ih => exact ih _ inTime
  | pause next ih =>
      simp only [parts, Parts.pause_later, List.length_cons, Nat.succ_mul] at inTime
      have now : ¬ timing.limit < elapsed + timing.pause := by omega
      simp only [runWithin, run, if_neg now]
      exact ih (by omega)

theorem runWithin_timedOut (start : elapsed ≤ timing.limit)
    (passed : timing.limit < elapsed + (p.parts driver state).later.length * timing.pause) :
    (p.runWithin driver timing operation elapsed state).1 = .error (.timedOut operation) := by
  induction p generalizing elapsed state with
  | done r => exact absurd start (by simpa [parts] using passed)
  | execute s next ih | query s next ih => exact ih _ start passed
  | pause next ih =>
      simp only [parts, Parts.pause_later, List.length_cons, Nat.succ_mul] at passed
      simp only [runWithin]
      split
      · rfl
      · exact ih (by omega) (by omega)

/-- A run that is in time after `n` of its pauses, but not after one more, is cut off there. -/
theorem runWithin_late (p : Program α) (script : Script)
    (reached : elapsed + n * timing.pause ≤ timing.limit)
    (passed : timing.limit < elapsed + (n + 1) * timing.pause)
    (more : n < (p.parts Script.driver script).later.length) :
    let run := p.runWithin Script.driver timing operation elapsed script
    run.1 = .error (.timedOut operation) ∧
      run.2.log = script.log ++ (p.parts Script.driver script).upTo n := by
  induction p generalizing n elapsed script with
  | done r => exact absurd more (Nat.not_lt_zero n)
  | execute s next ih =>
      obtain ⟨late, log⟩ :=
        ih (Script.driver.execute s script).1 (Script.driver.execute s script).2 reached passed more
      exact ⟨late, by simpa [runWithin, parts, Script.log_execute] using log⟩
  | query s next ih =>
      obtain ⟨late, log⟩ :=
        ih (Script.driver.query s script).1 (Script.driver.query s script).2 reached passed more
      exact ⟨late, by simpa [runWithin, parts, Script.log_query] using log⟩
  | pause next ih =>
      -- This pause is the one that ends late, or one of the `n` before it.
      cases n with
      | zero =>
          have now : timing.limit < elapsed + timing.pause := by simpa using passed
          simp [runWithin, parts, now]
      | succ n =>
          simp only [Nat.succ_mul] at reached passed
          have now : ¬ timing.limit < elapsed + timing.pause := by omega
          simp only [runWithin, if_neg now, parts, Parts.upTo_pause_succ]
          refine ih script (by omega) ?_ (Nat.lt_of_succ_lt_succ more)
          simp only [Nat.succ_mul]
          omega

/-! ## How many pauses -/

theorem length_later_bind (p : Program α) (f : α → Program β) (state : σ) :
    ((p.bind f).parts driver state).later.length =
      (p.parts driver state).later.length +
        match p.run driver state with
        | (.ok a, after) => ((f a).parts driver after).later.length
        | (.error _, _) => 0 := by
  induction p generalizing state with
  | done r =>
      cases r with
      | ok a => exact (Nat.zero_add _).symm
      | error e => rfl
  | execute s next ih | query s next ih => exact ih _ _
  | pause next ih =>
      simp only [bind, parts, run, Parts.pause_later, List.length_cons, ih state]
      exact Nat.add_right_comm _ _ 1

end Parts
end Program

/-! ## Untimed programs -/

namespace Program

/-- The program makes no pause and never says itself that time ran out. -/
def Untimed : Program α → Prop
  | .done r => ∀ operation, r ≠ .error (.timedOut operation)
  | .execute _ next => ∀ answer, (next answer).Untimed
  | .query _ next => ∀ answer, (next answer).Untimed
  | .pause _ => False

theorem Direct.untimed {allowed : AccountError → Prop} {p : Program α} (direct : p.Direct allowed)
    (apart : ∀ operation, ¬ allowed (.timedOut operation)) : p.Untimed := by
  induction p with
  | done r => exact fun operation late => apart operation (direct _ late)
  | execute s next ih | query s next ih => exact fun answer => ih answer (direct answer)
  | pause next ih => exact direct.elim

namespace Untimed

variable {p : Program α}

theorem later_parts (untimed : p.Untimed) (driver : Driver σ) (state : σ) :
    (p.parts driver state).later = [] := by
  induction p generalizing state with
  | done r => rfl
  | execute s next ih | query s next ih => exact ih _ (untimed _) _
  | pause next ih => exact untimed.elim

/-- Behind one pause a program runs to its end or not at all. -/
theorem runWithin_pause (untimed : p.Untimed) (driver : Driver σ) (timing : Timing)
    (operation : String) (state : σ) :
    (Program.pause p).runWithin driver timing operation 0 state =
      if timing.limit < timing.pause then (.error (.timedOut operation), state)
      else p.run driver state := by
  simp only [Program.runWithin, Nat.zero_add]
  split
  · rfl
  next inTime =>
    refine runWithin_inTime ?_
    rw [untimed.later_parts, List.length_nil, Nat.zero_mul]
    exact Nat.not_lt.1 inTime

end Untimed
end Program

theorem Program.Untimed.run {p : Program α} (untimed : p.Untimed) (driver : Driver σ) (state : σ)
    (operation : String) : (p.run driver state).1 ≠ .error (.timedOut operation) := by
  induction p generalizing state with
  | done r => exact untimed operation
  | execute s next ih | query s next ih => exact ih _ (untimed _) _
  | pause next ih => exact untimed.elim

/-! ## Operations on a table -/

section Calls

variable {α : Type} [Account α]

theorem AccountError.not_ofStore_timedOut (operation : String) : ¬ (timedOut operation).OfStore :=
  nofun

theorem Store.untimed_ifExists (t : Table) (predicate : ContactPredicate) :
    (ifExists t predicate).Untimed :=
  (direct_ifExists t predicate).untimed AccountError.not_ofStore_timedOut

theorem Store.untimed_createAndFetch (a : α) : (createAndFetch a).Untimed :=
  (direct_createAndFetch a).untimed AccountError.not_ofStore_timedOut

theorem StoreCall.untimed_program (call : StoreCall α) : call.program.Untimed :=
  call.direct_program.untimed AccountError.not_ofStore_timedOut

end Calls
end AccountStore

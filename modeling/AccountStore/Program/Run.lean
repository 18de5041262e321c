import AccountStore.Program.Basic

/-!
Running programs against a database.

A driver answers statements and keeps a state of its own. A run within a deadline advances a clock
at every pause and is cut off, before anything more is sent, at the first pause that ends after the
deadline.
-/

namespace AccountStore

/-- What answers statements, with the state that it keeps. -/
structure Driver (σ : Type) where
  execute : Statement → σ → Except DriverError Nat × σ
  query : Statement → σ → Except DriverError (List ResultRow) × σ

/-- The longest pause, in milliseconds: thirty years of 365 days. -/
def longestPause : Nat :=
  30 * 365 * 86400 * 1000

/-- How long each pause should take and how long a call may take, in milliseconds. -/
structure Timing where
  delay : Nat
  limit : Nat
deriving DecidableEq, Repr

/-- How long each pause takes. -/
def Timing.pause (timing : Timing) : Nat :=
  min timing.delay longestPause

namespace Program

/-- Runs a program to its end; pauses take no time. -/
def run (driver : Driver σ) : Program α → σ → Except AccountError α × σ
  | .done result, state => (result, state)
  | .execute s next, state =>
      let (answer, state) := driver.execute s state
      (next answer).run driver state
  | .query s next, state =>
      let (answer, state) := driver.query s state
      (next answer).run driver state
  | .pause next, state => next.run driver state

/-- Runs a program under the deadline of a named operation, `elapsed` milliseconds after its start.
A pause that ends exactly at the deadline is in time. -/
def runWithin (driver : Driver σ) (timing : Timing) (operation : String) (elapsed : Nat) :
    Program α → σ → Except AccountError α × σ
  | .done result, state => (result, state)
  | .execute s next, state =>
      let (answer, state) := driver.execute s state
      (next answer).runWithin driver timing operation elapsed state
  | .query s next, state =>
      let (answer, state) := driver.query s state
      (next answer).runWithin driver timing operation elapsed state
  | .pause next, state =>
      if timing.limit < elapsed + timing.pause then (.error (.timedOut operation), state)
      else next.runWithin driver timing operation (elapsed + timing.pause) state

theorem run_bind (driver : Driver σ) (p : Program α) (f : α → Program β) (state : σ) :
    (p.bind f).run driver state =
      match p.run driver state with
      | (.ok a, state) => (f a).run driver state
      | (.error e, state) => (.error e, state) := by
  induction p generalizing state with
  | done result => cases result <;> rfl
  | execute s next ih | query s next ih => exact ih _ _
  | pause next ih => exact ih state

/-- A call whose pauses take no time is never cut off. -/
theorem runWithin_eq_run (driver : Driver σ) (limit : Nat) (operation : String) (elapsed : Nat)
    (inTime : elapsed ≤ limit) (p : Program α) (state : σ) :
    p.runWithin driver ⟨0, limit⟩ operation elapsed state = p.run driver state := by
  induction p generalizing state with
  | done result => rfl
  | execute s next ih | query s next ih => exact ih _ _
  | pause next ih =>
      simp only [runWithin, run, Timing.pause, Nat.zero_min, Nat.add_zero, Nat.not_lt.2 inTime,
        if_false]
      exact ih state

end Program
end AccountStore

import AccountStore.Proofs.Operation.Exchange
import AccountStore.Proofs.Operation.Parts

/-!
# What a program says and hears

`Program.Speaks` lists the statements that a program sends, each with the answer of a driver that
may answer anything, and the result. Every run on a driver is such a dialogue (`exists_speaks`), and
a run whose deadline does not cut it off is a run without one (`runWithin_eq_run_of_inTime`).
-/

namespace AccountStore

/-- A statement as a driver answered it. -/
inductive Sent where
  | executed (s : Statement) (answer : Except DriverError Nat)
  | queried (s : Statement) (answer : Except DriverError (List ResultRow))

namespace Sent

def statement : Sent → Statement
  | executed s _ => s
  | queried s _ => s

def failed : Sent → Bool
  | executed _ (.error _) => true
  | queried _ (.error _) => true
  | _ => false

variable {s : Statement}

@[simp] theorem statement_executed (answer : Except DriverError Nat) :
    (executed s answer).statement = s := rfl

@[simp] theorem statement_queried (answer : Except DriverError (List ResultRow)) :
    (queried s answer).statement = s := rfl

@[simp] theorem failed_executed (n : Nat) : (executed s (.ok n)).failed = false := rfl

@[simp] theorem failed_queried (rows : List ResultRow) :
    (queried s (.ok rows)).failed = false := rfl

end Sent

/-- The driver gives these answers to these statements, and goes from one state to another. -/
def Driver.Answers (driver : Driver σ) : σ → List Sent → σ → Prop
  | first, [], last => first = last
  | first, .executed s answer :: rest, last =>
      (driver.execute s first).1 = answer ∧ driver.Answers (driver.execute s first).2 rest last
  | first, .queried s answer :: rest, last =>
      (driver.query s first).1 = answer ∧ driver.Answers (driver.query s first).2 rest last

theorem Script.log_of_answers {first last : Script} {said : List Sent}
    (answers : driver.Answers first said last) :
    last.log = first.log ++ said.map Sent.statement := by
  induction said generalizing first with
  | nil =>
      obtain rfl : first = last := answers
      exact (List.append_nil _).symm
  | cons x rest ih =>
      cases x with
      | executed s answer => rw [ih answers.2, log_execute]; simp
      | queried s answer => rw [ih answers.2, log_query]; simp

namespace Program

/-- The program may have this dialogue with a driver, and then this result. -/
inductive Speaks : Program α → List Sent → Except AccountError α → Prop
  | done (r : Except AccountError α) : (done r).Speaks [] r
  | execute {s : Statement} {next : Except DriverError Nat → Program α}
      {answer : Except DriverError Nat} {said : List Sent} {r : Except AccountError α}
      (rest : (next answer).Speaks said r) : (execute s next).Speaks (.executed s answer :: said) r
  | query {s : Statement} {next : Except DriverError (List ResultRow) → Program α}
      {answer : Except DriverError (List ResultRow)} {said : List Sent}
      {r : Except AccountError α} (rest : (next answer).Speaks said r) :
      (query s next).Speaks (.queried s answer :: said) r
  | pause {next : Program α} {said : List Sent} {r : Except AccountError α}
      (rest : next.Speaks said r) : (pause next).Speaks said r

theorem exists_speaks (driver : Driver σ) (p : Program α) (state : σ) :
    ∃ said, driver.Answers state said (p.run driver state).2 ∧
      p.Speaks said (p.run driver state).1 := by
  induction p generalizing state with
  | done r => exact ⟨[], rfl, .done r⟩
  | execute s next ih =>
      obtain ⟨said, answers, speaks⟩ := ih (driver.execute s state).1 (driver.execute s state).2
      exact ⟨.executed s _ :: said, ⟨rfl, answers⟩, .execute speaks⟩
  | query s next ih =>
      obtain ⟨said, answers, speaks⟩ := ih (driver.query s state).1 (driver.query s state).2
      exact ⟨.queried s _ :: said, ⟨rfl, answers⟩, .query speaks⟩
  | pause next ih =>
      obtain ⟨said, answers, speaks⟩ := ih state
      exact ⟨said, answers, .pause speaks⟩

theorem runWithin_eq_run_of_inTime {driver : Driver σ} {timing : Timing} {operation : String}
    {elapsed : Nat} {p : Program α} {state : σ}
    (inTime : (p.runWithin driver timing operation elapsed state).1 ≠
      .error (.timedOut operation)) :
    p.runWithin driver timing operation elapsed state = p.run driver state := by
  induction p generalizing elapsed state with
  | done r => rfl
  | execute s next ih | query s next ih => exact ih _ inTime
  | pause next ih =>
      simp only [runWithin, run] at inTime ⊢
      by_cases late : timing.limit < elapsed + timing.pause
      · rw [if_pos late] at inTime
        exact absurd rfl inTime
      · rw [if_neg late] at inTime ⊢
        exact ih inTime

/-! ## Dialogues of one statement -/

variable {s : Statement} {said : List Sent} {r : Except AccountError α}

theorem Speaks.of_ended {p : Program α} (speaks : p.Speaks said r) (ended : p.Ended) :
    said = [] ∧ p = .done r := by
  obtain ⟨_, rfl⟩ := ended
  cases speaks
  exact ⟨rfl, rfl⟩

theorem Speaks.of_query {next : List ResultRow → Program α}
    (speaks : (Program.query s (reply next)).Speaks said r) (ended : ∀ rows, (next rows).Ended) :
    ∃ answer, said = [.queried s answer] ∧ reply next answer = .done r := by
  cases speaks with
  | @query _ _ answer _ _ rest =>
      obtain ⟨rfl, result⟩ := rest.of_ended (ended_reply ended answer)
      exact ⟨answer, rfl, result⟩

theorem Speaks.of_execute {next : Nat → Program α}
    (speaks : (Program.execute s (reply next)).Speaks said r) (ended : ∀ n, (next n).Ended) :
    ∃ answer, said = [.executed s answer] ∧ reply next answer = .done r := by
  cases speaks with
  | @execute _ _ answer _ _ rest =>
      obtain ⟨rfl, result⟩ := rest.of_ended (ended_reply ended answer)
      exact ⟨answer, rfl, result⟩

end Program
end AccountStore

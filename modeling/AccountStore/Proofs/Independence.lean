import AccountStore.Proofs.Operation.OneTable

/-!
# Users and administrators do not interfere

The steps on one table answer what they answer without the steps on the other, and leave the same
table behind. The proof compares the two runs step by step: a step on the table finds the same table
in both, and a step on the other one does not touch it.
-/

namespace AccountStore
open Calendar Memory

def stepsAt (t : Table) (steps : List (Stamp × Step)) : List (Stamp × Step) :=
  steps.filter fun x => x.2.table = t

/-- The answers of the steps on one table. -/
def answersAt (t : Table) (steps : List (Stamp × Step))
    (answers : List (Except AccountError StepAnswer)) : List (Except AccountError StepAnswer) :=
  ((steps.zip answers).filter fun x => x.1.2.table = t).map (·.2)

section

variable {t : Table} {steps : List (Stamp × Step)} {stamp : Stamp} {step : Step}
  {answer : Except AccountError StepAnswer} {answers : List (Except AccountError StepAnswer)}

theorem stepsAt_cons_of_eq (table : step.table = t) :
    stepsAt t ((stamp, step) :: steps) = (stamp, step) :: stepsAt t steps := by
  simp [stepsAt, table]

theorem stepsAt_cons_of_ne (table : step.table ≠ t) :
    stepsAt t ((stamp, step) :: steps) = stepsAt t steps := by
  simp [stepsAt, table]

theorem answersAt_cons_of_eq (table : step.table = t) :
    answersAt t ((stamp, step) :: steps) (answer :: answers) =
      answer :: answersAt t steps answers := by
  simp [answersAt, table]

theorem answersAt_cons_of_ne (table : step.table ≠ t) :
    answersAt t ((stamp, step) :: steps) (answer :: answers) = answersAt t steps answers := by
  simp [answersAt, table]

end

/-- A run answers its steps on one table as if there were no others, whatever the other table holds
at the start, and leaves in the one table what they leave in it alone. -/
theorem tables_independent (timing : Timing) (steps : List (Stamp × Step)) (t : Table)
    {mixed single : Accounts} (same : mixed.get t = single.get t) :
    let run := runSteps Accounts.driver timing steps mixed
    let alone := runSteps Accounts.driver timing (stepsAt t steps) single
    answersAt t steps run.1 = alone.1 ∧ run.2.get t = alone.2.get t := by
  induction steps generalizing mixed single with
  | nil => exact ⟨rfl, same⟩
  | cons head rest ih =>
      obtain ⟨stamp, step⟩ := head
      simp only [runSteps]
      by_cases table : step.table = t
      · rw [answersAt_cons_of_eq table, stepsAt_cons_of_eq table]
        subst table
        obtain ⟨answer, after⟩ := step.run_at same timing stamp.now stamp
        obtain ⟨answers, final⟩ := ih after
        rw [answer, answers]
        exact ⟨rfl, final⟩
      · rw [answersAt_cons_of_ne table, stepsAt_cons_of_ne table]
        apply ih
        rw [step.run_get_of_ne (Ne.symm table) timing stamp.now stamp mixed]
        exact same

/-- A user and an administrator with the same identifier and the same phone number. -/
theorem tables_independent_of_namesakes :
    let stamped (steps : List Step) : List (Stamp × Step) :=
      steps.map fun step => (⟨"", .epoch⟩, step)
    let earlier := stamped
      [.admin (.store (.create { id := "a", phoneNumber := "+1", email := "e" }))]
    let steps := stamped
      [.user (.store (.create { id := "a", phoneNumber := "+1" })),
       .admin (.service (.changePassword ⟨"+1", "e"⟩ "secret")), .admin (.store (.delete "a")),
       .user (.store (.get "a")), .user (.service (.delete "a"))]
    let mixed := (runSteps Accounts.driver ⟨0, 30000⟩ earlier .empty).2
    let run := runSteps Accounts.driver ⟨0, 30000⟩ steps mixed
    let alone := runSteps Accounts.driver ⟨0, 30000⟩ (stepsAt .users steps) .empty
    mixed.get .users = Accounts.empty.get .users ∧ answersAt .users steps run.1 = alone.1 ∧
      alone.1 = [.ok (.user (.id "a")),
        .ok (.user (.account { id := "a", ordinal := 1, phoneNumber := "+1" })),
        .ok (.user .done)] ∧
      run.2.get .users = alone.2.get .users := by
  intro stamped earlier steps mixed run alone
  have same : mixed.get .users = Accounts.empty.get .users := rfl
  obtain ⟨answers, final⟩ := tables_independent ⟨0, 30000⟩ steps .users same
  exact ⟨same, answers, rfl, final⟩

end AccountStore

import AccountStore.Proofs.Operation.Run

/-!
# The history of a table

What any run makes of an empty table. Row `i` is the row that the `i`-th successful creation
inserted, as it may have become since: nothing but an update has set its time of update, and once
deleted it stays as it is. `runSteps_kept` says this of a run from any sound tables, by what one
step does (`Step.run_rows`).
-/

namespace AccountStore
open Calendar Memory

/-! ## What a run says about its rows -/

/-- The rows that the successful creations of a run insert into a table, the first with ordinal
`n`. -/
def inserted (t : Table) : Nat → List (Stamp × Step) → List (Except AccountError StepAnswer) →
    List Row
  | n, (stamp, step) :: steps, answer :: answers =>
      match step.insertion? t stamp, answer with
      | some cells, .ok _ => Row.ofCells n cells :: inserted t (n + 1) steps answers
      | _, _ => inserted t n steps answers
  | _, _, _ => []

/-- An update of a row succeeds in a run. -/
def Updated (t : Table) (id : String) (steps : List (Stamp × Step))
    (answers : List (Except AccountError StepAnswer)) : Prop :=
  ∃ call ∈ steps.zip answers, call.1.2.table = t ∧
    (∃ cells, call.1.2.change call.1.1 = .replacement id cells) ∧ ∃ a, call.2 = .ok a

/-- What is true of the rows of a table after a run from empty tables. -/
structure History (t : Table) (steps : List (Stamp × Step))
    (answers : List (Except AccountError StepAnswer)) (rows : List Row) : Prop where
  ids : (rows.map (· .id)).Nodup
  phoneNumbers : ((rows.filter Row.isLive).map (· .phoneNumber)).Nodup
  emails : t = .admins → ((rows.filter Row.isLive).map (· .email)).Nodup
  length : rows.length = (inserted t 1 steps answers).length
  ordinal (i : Nat) (row : Row) : rows[i]? = some row → row .ordinal = .bigint (some (i + 1 : Nat))
  kept : Row.Kept (inserted t 1 steps answers) rows
  updatedAt : ∀ row ∈ rows, row .updatedAt ≠ .timestamp none →
    ∃ id, row .id = .text (some id) ∧ Updated t id steps answers
  deletedAt : ∀ row ∈ rows, row .deletedAt = .timestamp none ∨
    ∃ time, row .deletedAt = .timestamp (some time)

/-! ## One change -/

theorem Memory.Row.Kept.append {a b : List Row} (kept : Row.Kept a b) (same : a.length = b.length)
    (rest : List Row) : Row.Kept (a ++ rest) (b ++ rest) := by
  intro i x hx
  rcases Nat.lt_or_ge i a.length with inside | outside
  · rw [List.getElem?_append_left inside] at hx
    rw [List.getElem?_append_left (same ▸ inside)]
    exact kept i x hx
  · rw [List.getElem?_append_right outside] at hx
    rw [List.getElem?_append_right (same ▸ outside), ← same]
    exact ⟨x, hx, .refl x⟩

theorem Change.Applies.updatedAt {t u : Table} {c : Change} {now : Instant}
    {before after : Accounts}
    (lawful : c.Lawful t) (applies : c.Applies t now before after) {row : Row}
    (member : row ∈ (after.get u).rows) (set : row .updatedAt ≠ .timestamp none) :
    (∃ old ∈ (before.get u).rows, old .id = row .id ∧ old .updatedAt ≠ .timestamp none) ∨
      t = u ∧ ∃ id cells, c = .replacement id cells ∧ row .id = .text (some id) := by
  rcases applies.mem member with old | ⟨rfl, ⟨id, cells, rfl, rfl⟩ | ⟨old, there, rfl⟩⟩
  · exact Or.inl ⟨row, old, rfl, set⟩
  · exact absurd (lawful _).1.updatedAt set
  · rw [Change.rewrite_id lawful]
    by_cases same : c.rewrite now old .updatedAt = old .updatedAt
    · exact Or.inl ⟨old, there, rfl, same ▸ set⟩
    · obtain ⟨_, ⟨id, cells, replacement, hid, _⟩ | ⟨_, _, _, other⟩ | other |
        ⟨_, _, _, _, other⟩⟩ := Change.rewrite_ne same
      · exact Or.inr ⟨rfl, id, cells, replacement, hid⟩
      · exact absurd other (by decide)
      · exact absurd other (by decide)
      · exact absurd other (by decide)

/-! ## One step -/

theorem Step.run_rows (step : Step) (timing : Timing) (now : Instant) (stamp : Stamp)
    (accounts : Accounts) (t : Table) :
    let run := step.run (Accounts.driver now) timing stamp accounts
    (∃ cells, step.insertion? t stamp = some cells ∧ (∃ a, run.1 = .ok a) ∧
        (run.2.get t).rows = (accounts.get t).rows ++ [Row.ofCells (accounts.get t).next cells] ∧
        (run.2.get t).next = (accounts.get t).next + 1) ∨
      (step.insertion? t stamp = none ∨ ∃ e, run.1 = .error e) ∧
        Row.Kept (accounts.get t).rows (run.2.get t).rows ∧
        (run.2.get t).rows.length = (accounts.get t).rows.length ∧
        (run.2.get t).next = (accounts.get t).next := by
  intro run
  rcases step.run_cases timing now stamp accounts with ⟨same, failed⟩ | ⟨applies, a, ok⟩
  · refine Or.inr ⟨?_, by rw [same]; exact .refl _, by rw [same], by rw [same]⟩
    unfold Step.insertion?
    split
    · cases change : step.change stamp with
      | insertion id cells => exact Or.inr (failed id (by rw [change]; rfl))
      | nothing | replacement | deletion | password | refreshToken => exact Or.inl rfl
    · exact Or.inl rfl
  · have kept := applies.kept (step.lawful_change stamp) t
    obtain ⟨s, state, writes, change, after⟩ := applies
    by_cases table : step.table = t
    · subst table
      have final : run.2.get step.table = state := by rw [after, Accounts.get_set]
      rw [Step.insertion?, if_pos rfl]
      rcases writes.rows change with ⟨id, cells, eq, rfl⟩ | ⟨other, rfl⟩
      · exact Or.inl ⟨cells, by rw [eq], ⟨a, ok⟩, by rw [final], by rw [final]⟩
      · refine Or.inr ⟨Or.inl ?_, kept, by simp [final], by rw [final]⟩
        cases eq : step.change stamp with
        | insertion id cells => exact absurd eq (other id cells)
        | nothing | replacement | deletion | password | refreshToken => rfl
    · have final : run.2.get t = accounts.get t := by
        rw [after, Accounts.get_set_of_ne fun h => table h.symm]
      exact Or.inr ⟨Or.inl (if_neg table), kept, by rw [final], by rw [final]⟩

/-! ## Runs -/

theorem runSteps_append (driverAt : Instant → Driver σ) (timing : Timing)
    (earlier later : List (Stamp × Step)) (state : σ) :
    (runSteps driverAt timing (earlier ++ later) state).2 =
      (runSteps driverAt timing later (runSteps driverAt timing earlier state).2).2 := by
  induction earlier generalizing state with
  | nil => rfl
  | cons head rest ih => exact ih _

/-- After a run the rows are those from before it and those inserted, as they may have become. -/
theorem runSteps_kept (t : Table) (timing : Timing) (steps : List (Stamp × Step))
    (accounts : Accounts) :
    let run := runSteps Accounts.driver timing steps accounts
    let rows := (accounts.get t).rows ++ inserted t (accounts.get t).next steps run.1
    Row.Kept rows (run.2.get t).rows ∧ (run.2.get t).rows.length = rows.length := by
  induction steps generalizing accounts with
  | nil => simp only [runSteps, inserted, List.append_nil, and_true]; exact .refl _
  | cons head rest ih =>
      obtain ⟨stamp, step⟩ := head
      obtain ⟨kept, length⟩ := ih (step.run (Accounts.driver stamp.now) timing stamp accounts).2
      simp only [runSteps] at kept length ⊢
      rcases step.run_rows timing stamp.now stamp accounts t with
        ⟨cells, insertion, ⟨a, ok⟩, rows, next⟩ | ⟨other, earlier, same, next⟩
      · rw [rows, next] at kept length
        simp only [inserted, insertion, ok]
        simpa only [List.append_assoc, List.singleton_append] using And.intro kept length
      · -- a step that inserts nothing adds nothing to the rows that are expected
        have skip : ∀ n answers, inserted t n ((stamp, step) :: rest)
            ((step.run (Accounts.driver stamp.now) timing stamp accounts).1 :: answers) =
              inserted t n rest answers := by
          intro n answers
          rcases other with none | ⟨e, error⟩
          · simp only [inserted, none]
          · simp only [inserted, error]
            cases step.insertion? t stamp <;> rfl
        rw [skip, ← next]
        refine ⟨(earlier.append same.symm _).trans kept, ?_⟩
        rw [length, List.length_append, List.length_append, same]

theorem runSteps_has {t : Table} {accounts : Accounts} {id : String}
    (present : (accounts.get t).Has id) (timing : Timing) (steps : List (Stamp × Step)) :
    ((runSteps Accounts.driver timing steps accounts).2.get t).Has id := by
  obtain ⟨row, member, hid⟩ := present
  obtain ⟨later, there, evolves⟩ :=
    (runSteps_kept t timing steps accounts).1.mem (List.mem_append_left _ member)
  exact ⟨later, there, evolves.id.trans hid⟩

theorem runSteps_updatedAt (t : Table) (timing : Timing) (steps : List (Stamp × Step))
    (accounts : Accounts) :
    let run := runSteps Accounts.driver timing steps accounts
    ∀ row ∈ (run.2.get t).rows, row .updatedAt ≠ .timestamp none →
      (∃ old ∈ (accounts.get t).rows, old .id = row .id ∧ old .updatedAt ≠ .timestamp none) ∨
        ∃ id, row .id = .text (some id) ∧ Updated t id steps run.1 := by
  induction steps generalizing accounts with
  | nil => exact fun row member set => Or.inl ⟨row, member, rfl, set⟩
  | cons head rest ih =>
      obtain ⟨stamp, step⟩ := head
      intro run row member set
      rcases ih (step.run (Accounts.driver stamp.now) timing stamp accounts).2 row member set with
        ⟨old, there, same, oldSet⟩ | ⟨id, hid, call, later, updated⟩
      · rcases step.run_cases timing stamp.now stamp accounts with ⟨eq, _⟩ | ⟨applies, ok⟩
        · rw [eq] at there
          exact Or.inl ⟨old, there, same, oldSet⟩
        · rcases applies.updatedAt (step.lawful_change stamp) there oldSet with
            ⟨first, before, sameFirst, firstSet⟩ | ⟨table, id, cells, replacement, hid⟩
          · exact Or.inl ⟨first, before, sameFirst.trans same, firstSet⟩
          · exact Or.inr ⟨id, same.symm.trans hid, _, List.mem_cons_self, table,
              ⟨cells, replacement⟩, ok⟩
      · exact Or.inr ⟨id, hid, call, List.mem_cons_of_mem _ later, updated⟩

/-- After every run from empty tables each table has its history, and however the run goes on, the
rows only evolve. -/
theorem history (timing : Timing) (earlier later : List (Stamp × Step)) (t : Table) :
    let run := runSteps Accounts.driver timing earlier .empty
    let final := runSteps Accounts.driver timing (earlier ++ later) .empty
    History t earlier run.1 (run.2.get t).rows ∧
      Row.Kept (run.2.get t).rows (final.2.get t).rows := by
  intro run final
  have sound := (Reachable.empty.runSteps timing earlier).sound t
  have start : (Accounts.empty.get t).rows = [] ∧ (Accounts.empty.get t).next = 1 := by
    cases t <;> exact ⟨rfl, rfl⟩
  obtain ⟨kept, length⟩ := runSteps_kept t timing earlier .empty
  rw [start.1, start.2, List.nil_append] at kept length
  refine ⟨⟨sound.nodup_ids, ?_, ?_, length, sound.ordinal, kept, ?_, ?_⟩, ?_⟩
  · exact sound.nodup_live (by cases t <;> decide)
  · rintro rfl
    exact sound.nodup_live (by decide)
  · intro row member set
    refine (runSteps_updatedAt t timing earlier .empty row member set).resolve_left ?_
    rintro ⟨old, there, _⟩
    rw [start.1] at there
    exact absurd there List.not_mem_nil
  · intro row member
    obtain ⟨time, h⟩ := (sound.typed row member).deletedAt
    cases time with
    | none => exact Or.inl h
    | some time => exact Or.inr ⟨time, h⟩
  · obtain ⟨kept, _⟩ := runSteps_kept t timing later run.2
    have rest : final.2 = (runSteps Accounts.driver timing later run.2).2 :=
      runSteps_append _ _ _ _ _
    rw [rest]
    intro i row there
    refine kept i row ?_
    rw [List.getElem?_append_left (List.getElem?_eq_some_iff.1 there).1, there]

end AccountStore

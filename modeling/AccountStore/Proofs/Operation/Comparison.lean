import AccountStore.Proofs.Operation.Run
import AccountStore.Script
import Mathlib.Data.List.Forall2

/-!
# Comparing two runs

Two programs go together if they send statements that match and, whatever matching answers they get,
go on together to ends that match. Drivers that give matching answers to matching statements then
lead them to such ends (`Together.runWithin`), under any deadline, and a run of steps to matching
answers (`runSteps_likewise`). What matches is left open: the same text, the same text but for
credentials, the same but for what drivers say of their failures, or the same altogether.
-/

namespace AccountStore
open Calendar

/-! ## Outcomes -/

/-- Both succeed with values that match, or both fail with errors that match. -/
inductive Likewise (E : ε → δ → Prop) (R : α → β → Prop) : Except ε α → Except δ β → Prop
  | ok {a : α} {b : β} (same : R a b) : Likewise E R (.ok a) (.ok b)
  | error {e : ε} {d : δ} (same : E e d) : Likewise E R (.error e) (.error d)

namespace Likewise

variable {E : ε → δ → Prop} {R : α → β → Prop}

theorem mono {F : ε → δ → Prop} {S : α → β → Prop} {x : Except ε α} {y : Except δ β}
    (same : Likewise E R x y) (errors : ∀ e d, E e d → F e d) (values : ∀ a b, R a b → S a b) :
    Likewise F S x y := by
  cases same with
  | ok h => exact .ok (values _ _ h)
  | error h => exact .error (errors _ _ h)

theorem map {S : γ → ζ → Prop} {f : α → γ} {g : β → ζ} {x : Except ε α} {y : Except δ β}
    (same : Likewise E R x y) (next : ∀ a b, R a b → S (f a) (g b)) :
    Likewise E S (x.map f) (y.map g) := by
  cases same with
  | ok h => exact .ok (next _ _ h)
  | error h => exact .error h

theorem eq {x y : Except ε α} (same : Likewise Eq Eq x y) : x = y := by
  cases same with
  | ok h => rw [h]
  | error h => rw [h]

theorem refl {E : ε → ε → Prop} {R : α → α → Prop} (errors : ∀ e, E e e) (values : ∀ a, R a a)
    (x : Except ε α) : Likewise E R x x := by
  cases x with
  | ok a => exact .ok (values a)
  | error e => exact .error (errors e)

theorem mapError_eq {f : ε → γ} {x y : Except ε α} (same : Likewise (fun e d => f e = f d) Eq x y) :
    x.mapError f = y.mapError f := by
  cases same with
  | ok h => rw [h]
  | error h => exact congrArg Except.error h

theorem of_eq {x y : Except ε α} (same : x = y) : Likewise Eq Eq x y :=
  same ▸ refl (fun _ => rfl) (fun _ => rfl) x

end Likewise

/-! ## Programs -/

/-- Which statements and rows match, which errors of a driver, and which errors of a call. Errors of
a driver that match are told alike. -/
structure Matching where
  sent : Statement → Statement → Prop
  received : List ResultRow → List ResultRow → Prop
  failed : DriverError → DriverError → Prop
  told : AccountError → AccountError → Prop
  told_refl (e : AccountError) : told e e
  told_ofDriver {e d : DriverError} (same : failed e d) : told (.ofDriver e) (.ofDriver d)

/-- Only errors that are the same match. -/
def Matching.sameErrors (sent : Statement → Statement → Prop)
    (received : List ResultRow → List ResultRow → Prop) : Matching :=
  ⟨sent, received, Eq, Eq, fun _ => rfl, congrArg _⟩

namespace Program

inductive Together (m : Matching) (R : α → β → Prop) : Program α → Program β → Prop
  | done {x : Except AccountError α} {y : Except AccountError β} (same : Likewise m.told R x y) :
      Together m R (.done x) (.done y)
  | execute {s t : Statement} {p : Except DriverError Nat → Program α}
      {q : Except DriverError Nat → Program β} (sent : m.sent s t)
      (next : ∀ x y, Likewise m.failed Eq x y → Together m R (p x) (q y)) :
      Together m R (.execute s p) (.execute t q)
  | query {s t : Statement} {p : Except DriverError (List ResultRow) → Program α}
      {q : Except DriverError (List ResultRow) → Program β} (sent : m.sent s t)
      (next : ∀ x y, Likewise m.failed m.received x y → Together m R (p x) (q y)) :
      Together m R (.query s p) (.query t q)
  | pause {p : Program α} {q : Program β} (next : Together m R p q) :
      Together m R (.pause p) (.pause q)

namespace Together

variable {m : Matching} {R : α → β → Prop} {S : γ → ζ → Prop} {p : Program α} {q : Program β}

theorem fail (e : AccountError) :
    Together m R (Program.fail e : Program α) (Program.fail e : Program β) :=
  .done (.error (m.told_refl e))

theorem pure {a : α} {b : β} (same : R a b) : Together m R (Program.pure a) (Program.pure b) :=
  .done (.ok same)

theorem bind {f : α → Program γ} {g : β → Program ζ} (together : p.Together m R q)
    (next : ∀ a b, R a b → (f a).Together m S (g b)) :
    (p.bind f).Together m S (q.bind g) := by
  induction together with
  | done same =>
      cases same with
      | ok h => exact next _ _ h
      | error h => exact .done (.error h)
  | execute sent _ ih => exact .execute sent ih
  | query sent _ ih => exact .query sent ih
  | pause _ ih => exact .pause ih

/-- Programs that go on after success only, as they go on then. -/
theorem reply {f : γ → Program α} {g : ζ → Program β}
    (next : ∀ c z, S c z → (f c).Together m R (g z)) (x : Except DriverError γ)
    (y : Except DriverError ζ) (answers : Likewise m.failed S x y) :
    (Program.reply f x).Together m R (Program.reply g y) := by
  cases answers with
  | ok h => exact next _ _ h
  | error h => exact .done (.error (m.told_ofDriver h))

theorem map {f : α → γ} {g : β → ζ} (together : p.Together m R q)
    (next : ∀ a b, R a b → S (f a) (g b)) : (f <$> p).Together m S (g <$> q) :=
  together.bind fun a b same => .pure (next a b same)

theorem mono {S : α → β → Prop} (together : p.Together m R q) (weaker : ∀ a b, R a b → S a b) :
    p.Together m S q := by
  induction together with
  | done same => exact .done (same.mono (fun _ _ h => h) weaker)
  | execute sent _ ih => exact .execute sent ih
  | query sent _ ih => exact .query sent ih
  | pause _ ih => exact .pause ih

theorem ofOption {x : Option α} {y : Option β} (e : AccountError) (same : Option.Rel R x y) :
    (Program.ofOption e x).Together m R (Program.ofOption e y) := by
  cases same with
  | some h => exact .pure h
  | none => exact .fail e

end Together

theorem Ended.together {m : Matching} {p : Program α} (ended : p.Ended) : p.Together m Eq p := by
  obtain ⟨r, rfl⟩ := ended
  exact .done (.refl m.told_refl (fun _ => rfl) r)

/-- The program of a call goes together with itself: of an error it passes on no more than what
callers are told. -/
theorem Makes.together {m : Matching} {t : Table} {c : Change} {p : Program α} (makes : p.Makes t c)
    (sent : ∀ s, s.table = t → m.sent s s) (received : ∀ r r', m.received r r' → r = r') :
    p.Together m Eq p := by
  induction p with
  | done r => exact Ended.together ⟨r, rfl⟩
  | execute s next ih =>
      obtain ⟨writes, success, rest, stops⟩ := makes
      refine .execute (sent s writes.table) fun x y answers => ?_
      cases answers with
      | @ok n _ same =>
          cases same
          cases n with
          | zero => exact ih (.ok 0) rest
          | succ n =>
              obtain ⟨a, ends⟩ := success n
              exact Ended.together ⟨_, ends⟩
      | @error e d same =>
          rw [stops e, stops d]
          exact .done (.error (m.told_ofDriver same))
  | query s next ih =>
      obtain ⟨sends, rest, stops⟩ := makes
      have table : s.table = t := sends.elim And.left fun writes => writes.1.table
      refine .query (sent s table) fun x y answers => ?_
      cases answers with
      | @ok rows _ same =>
          rw [← received _ _ same]
          exact ih (.ok rows) (rest rows)
      | @error e d same =>
          rw [stops e, stops d]
          exact .done (.error (m.told_ofDriver same))
  | pause next ih => exact .pause (ih makes)

end Program

/-! ## Runs -/

/-- From states that match, matching statements get matching answers and leave matching states. -/
structure Driver.Matches (m : Matching) (K : σ → τ → Prop) (first : Driver σ) (second : Driver τ) :
    Prop where
  execute {a : σ} {b : τ} {s t : Statement} (start : K a b) (sent : m.sent s t) :
    Likewise m.failed Eq (first.execute s a).1 (second.execute t b).1 ∧
    K (first.execute s a).2 (second.execute t b).2
  query {a : σ} {b : τ} {s t : Statement} (start : K a b) (sent : m.sent s t) :
    Likewise m.failed m.received (first.query s a).1 (second.query t b).1 ∧
    K (first.query s a).2 (second.query t b).2

section Runs

variable {m : Matching} {K : σ → τ → Prop} {first : Driver σ} {second : Driver τ}

theorem Program.Together.runWithin {R : α → β → Prop} {p : Program α} {q : Program β}
    (together : p.Together m R q) (drivers : Driver.Matches m K first second) (timing : Timing)
    (operation : String) (elapsed : Nat) {a : σ} {b : τ} (start : K a b) :
    Likewise m.told R (p.runWithin first timing operation elapsed a).1
        (q.runWithin second timing operation elapsed b).1 ∧
      K (p.runWithin first timing operation elapsed a).2
        (q.runWithin second timing operation elapsed b).2 := by
  induction together generalizing elapsed a b with
  | done same => exact ⟨same, start⟩
  | execute sent _ ih =>
      obtain ⟨answers, after⟩ := drivers.execute start sent
      exact ih _ _ answers elapsed after
  | query sent _ ih =>
      obtain ⟨answers, after⟩ := drivers.query start sent
      exact ih _ _ answers elapsed after
  | pause _ ih =>
      simp only [Program.runWithin]
      split
      · exact ⟨.error (m.told_refl _), start⟩
      · exact ih _ start

/-- Two steps, each with its stamp, are the same operation and go together. -/
structure Step.Together (m : Matching) (R : StepAnswer → StepAnswer → Prop)
    (x y : Stamp × Step) : Prop where
  operation : x.2.operation = y.2.operation
  timing (timing : Timing) : x.2.timing timing = y.2.timing timing
  program : (x.2.program x.1).Together m R (y.2.program y.1)

theorem Step.Together.run {R : StepAnswer → StepAnswer → Prop} {x y : Stamp × Step}
    (together : Step.Together m R x y) (drivers : Driver.Matches m K first second)
    (timing : Timing) {a : σ} {b : τ} (start : K a b) :
    Likewise m.told R (x.2.run first timing x.1 a).1 (y.2.run second timing y.1 b).1 ∧
      K (x.2.run first timing x.1 a).2 (y.2.run second timing y.1 b).2 := by
  rw [Step.run_eq, Step.run_eq, ← together.operation, ← together.timing]
  exact together.program.runWithin drivers _ _ _ start

/-- Steps that pairwise answer likewise, and keep the states matched, do so one after another. -/
theorem runSteps_likewise {E : AccountError → AccountError → Prop}
    {R : StepAnswer → StepAnswer → Prop} (first : Instant → Driver σ)
    (second : Instant → Driver τ) {timing : Timing} {xs ys : List (Stamp × Step)}
    (steps : List.Forall₂ (fun x y => ∀ a b, K a b →
      Likewise E R (x.2.run (first x.1.now) timing x.1 a).1
          (y.2.run (second y.1.now) timing y.1 b).1 ∧
        K (x.2.run (first x.1.now) timing x.1 a).2
          (y.2.run (second y.1.now) timing y.1 b).2) xs ys)
    {a : σ} {b : τ} (start : K a b) :
    List.Forall₂ (Likewise E R) (runSteps first timing xs a).1 (runSteps second timing ys b).1 ∧
      K (runSteps first timing xs a).2 (runSteps second timing ys b).2 := by
  induction steps generalizing a b with
  | nil => exact ⟨.nil, start⟩
  | cons step _ ih =>
      obtain ⟨answer, after⟩ := step a b start
      obtain ⟨answers, final⟩ := ih after
      simp only [runSteps]
      exact ⟨.cons answer answers, final⟩

theorem runSteps_together {R : StepAnswer → StepAnswer → Prop} (timing : Timing)
    {xs ys : List (Stamp × Step)} (steps : List.Forall₂ (Step.Together m R) xs ys)
    (drivers : Driver.Matches m K first second) {a : σ} {b : τ} (start : K a b) :
    List.Forall₂ (Likewise m.told R) (runSteps (fun _ => first) timing xs a).1
        (runSteps (fun _ => second) timing ys b).1 ∧
      K (runSteps (fun _ => first) timing xs a).2 (runSteps (fun _ => second) timing ys b).2 := by
  refine runSteps_likewise (fun _ => first) (fun _ => second) ?_ start
  refine steps.imp fun x y together => ?_
  intro a b start
  exact together.run drivers timing start

end Runs

/-! ## Scripted connections -/

namespace Script

/-- Scripts with the same answers, up to a relation of errors, that have sent matching statements. -/
structure Alike (E : DriverError → DriverError → Prop) (L : Statement → Statement → Prop)
    (a b : Script) : Prop where
  executions : List.Forall₂ (Likewise E Eq) a.executions b.executions
  queries : List.Forall₂ (Likewise E Eq) a.queries b.queries
  log : List.Forall₂ L a.log b.log

variable {E : DriverError → DriverError → Prop} {L : Statement → Statement → Prop} {a b : Script}
  {s t : Statement}

theorem forall₂_log (log : List.Forall₂ L a.log b.log) (sent : L s t) :
    List.Forall₂ L (a.log ++ [s]) (b.log ++ [t]) :=
  List.rel_append log (.cons sent .nil)

theorem Alike.execute (same : ∀ e, E e e) (alike : a.Alike E L b) (sent : L s t) :
    Likewise E Eq (a.execute s).1 (b.execute t).1 ∧ (a.execute s).2.Alike E L (b.execute t).2 := by
  obtain ⟨executions, queries, log⟩ := alike
  have log := forall₂_log log sent
  simp only [Script.execute]
  generalize a.executions = xs at executions
  generalize b.executions = ys at executions
  cases executions with
  | nil => exact ⟨.error (same _), ⟨.nil, queries, log⟩⟩
  | cons answer rest => exact ⟨answer, ⟨rest, queries, log⟩⟩

theorem Alike.query (same : ∀ e, E e e) (alike : a.Alike E L b) (sent : L s t) :
    Likewise E Eq (a.query s).1 (b.query t).1 ∧ (a.query s).2.Alike E L (b.query t).2 := by
  obtain ⟨executions, queries, log⟩ := alike
  have log := forall₂_log log sent
  simp only [Script.query]
  generalize a.queries = xs at queries
  generalize b.queries = ys at queries
  cases queries with
  | nil => exact ⟨.error (same _), ⟨executions, .nil, log⟩⟩
  | cons answer rest => exact ⟨answer, ⟨executions, rest, log⟩⟩

theorem driver_matches {m : Matching} (failed : ∀ e, m.failed e e) (received : m.received = Eq) :
    Driver.Matches m (Alike m.failed m.sent) driver driver where
  execute alike sent := alike.execute failed sent
  query alike sent := by
    rw [received]
    exact alike.query failed sent

end Script
end AccountStore

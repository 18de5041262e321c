import AccountStore.Proofs.Operation.Program
import AccountStore.Proofs.Operation.Rows

/-!
# Exchanges with the account tables

What a program and the database say to each other, one statement at a time.
`Program.Becomes` is how a program goes on while anything may happen to the tables between its
statements; `Program.Makes.becomes` says of all these ways that the change of a call is made at most
once, by the last statement, and then the call succeeds.
-/

namespace AccountStore
open Calendar Memory

namespace Memory.Accounts

variable {t : Table} {now : Instant} {s : Statement} {accounts : Accounts}

theorem execute_eq (table : s.table = t) {answer : Except DriverError Nat} {state : TableState}
    (run : (accounts.get t).execute now s = (answer, state)) :
    (driver now).execute s accounts = (answer, accounts.set t state) := by
  subst table
  simp only [driver, execute, run]

theorem query_eq (now : Instant) (table : s.table = t)
    {answer : Except DriverError (List ResultRow)}
    {state : TableState} (run : (accounts.get t).query s = (answer, state)) :
    (driver now).query s accounts = (answer, accounts.set t state) := by
  subst table
  simp only [driver, query, run]

theorem execute_cases (now : Instant) (accounts : Accounts) (table : s.table = t) :
    (∃ n state, (driver now).execute s accounts = (.ok (n + 1), accounts.set t state) ∧
        (accounts.get t).Changes now s state) ∨
      ((driver now).execute s accounts = (.ok 0, accounts) ∧
        ∀ u cells returning, s ≠ .insert u cells returning) ∨
      (driver now).execute s accounts = (.error TableState.duplicate, accounts) := by
  rcases TableState.execute_cases now (accounts.get t) s with
    ⟨n, after, run, change⟩ | ⟨run, other⟩ | run
  · exact Or.inl ⟨n, after, execute_eq table run, change⟩
  · exact Or.inr (Or.inl ⟨by rw [execute_eq table run, set_get], other⟩)
  · exact Or.inr (Or.inr (by rw [execute_eq table run, set_get]))

theorem query_cases (now : Instant) (accounts : Accounts) (table : s.table = t) :
    (∃ cells returning state, s = .insert t cells returning ∧
        (driver now).query s accounts =
          (.ok [(accounts.get t).returned t cells], accounts.set t state) ∧
        (accounts.get t).Changes now s state) ∨
      (s.isMutating = true ∧
        (driver now).query s accounts = (.error TableState.duplicate, accounts)) ∨
      ∃ rows, (∀ u cells returning, s ≠ .insert u cells returning) ∧
        (driver now).query s accounts = (.ok rows, accounts) := by
  rcases TableState.query_cases now (accounts.get t) s with
    ⟨u, cells, returning, after, rfl, run, change⟩ | ⟨mutating, run⟩ | ⟨rows, other, run⟩
  · cases table
    exact Or.inl ⟨cells, returning, after, rfl, query_eq now rfl run, change⟩
  · exact Or.inr (Or.inl ⟨mutating, by rw [query_eq now table run, set_get]⟩)
  · exact Or.inr (Or.inr ⟨rows, other, by rw [query_eq now table run, set_get]⟩)

end Memory.Accounts

/-! ## Exchanges -/

/-- A statement as the database answered it at a time. -/
structure Exchange where
  now : Instant
  statement : Statement
  /-- Why the database refused the statement, if it did. -/
  refusal? : Option DriverError
  before : Accounts
  after : Accounts

/-- The first tables, a list of exchanges one after another, and the last tables. -/
def Linked : Accounts → List Exchange → Accounts → Prop
  | first, [], last => first = last
  | first, e :: rest, last => e.before = first ∧ Linked e.after rest last

namespace Linked

variable {a b c : Accounts} {log later : List Exchange}

theorem append : Linked a (log ++ later) c ↔ ∃ b, Linked a log b ∧ Linked b later c := by
  induction log generalizing a with
  | nil => exact ⟨fun h => ⟨a, rfl, h⟩, fun ⟨_, same, h⟩ => same ▸ h⟩
  | cons e rest ih =>
      constructor
      · rintro ⟨before, h⟩
        obtain ⟨b, first, second⟩ := ih.1 h
        exact ⟨b, ⟨before, first⟩, second⟩
      · rintro ⟨b, ⟨before, first⟩, second⟩
        exact ⟨before, ih.2 ⟨b, first, second⟩⟩

theorem split {e : Exchange} (linked : Linked a (log ++ e :: later) b) :
    Linked a log e.before ∧ Linked e.after later b := by
  obtain ⟨_, first, rfl, second⟩ := append.1 linked
  exact ⟨first, second⟩

theorem preserves (linked : Linked a log b) {P : Accounts → Prop} (start : P a)
    (step : ∀ e ∈ log, P e.before → P e.after) : P b := by
  induction log generalizing a with
  | nil =>
      cases linked
      exact start
  | cons e rest ih =>
      obtain ⟨rfl, linked⟩ := linked
      have next := step e List.mem_cons_self start
      exact ih linked next fun e later => step e (List.mem_cons_of_mem _ later)

/-- What begins to hold begins to hold at an exchange. -/
theorem exists_begins (linked : Linked a log b) {P : Accounts → Prop} (start : ¬ P a)
    (final : P b) :
    ∃ e ∈ log, ¬ P e.before ∧ P e.after := by
  refine Classical.byContradiction fun never => ?_
  refine linked.preserves (P := fun accounts => ¬ P accounts) start ?_ final
  exact fun e member before after => never ⟨e, member, before, after⟩

end Linked

/-! ## Programs -/

namespace Program

def refusal? : Except DriverError β → Option DriverError
  | .ok _ => none
  | .error e => some e

def exchange? (now : Instant) (accounts : Accounts) : Program α → Option (Exchange × Program α)
  | .execute s next =>
      let run := (Accounts.driver now).execute s accounts
      some (⟨now, s, refusal? run.1, accounts, run.2⟩, next run.1)
  | .query s next =>
      let run := (Accounts.driver now).query s accounts
      some (⟨now, s, refusal? run.1, accounts, run.2⟩, next run.1)
  | .done _ => none
  | .pause _ => none

def answer? : Program α → Option (Except AccountError α)
  | .done r => some r
  | _ => none

/-- A program has these exchanges and then goes on as another program. Between them others may
change the tables, and every pause may end in time or too late. -/
inductive Becomes (operation : String) : Program α → List Exchange → Program α → Prop
  | refl (p : Program α) : p.Becomes operation [] p
  | resume {next q : Program α} {own : List Exchange} (rest : next.Becomes operation own q) :
      (pause next).Becomes operation own q
  | expire (next : Program α) : (pause next).Becomes operation [] (fail (.timedOut operation))
  | exchange (now : Instant) (accounts : Accounts) {p next q : Program α} {e : Exchange}
      {own : List Exchange} (sent : p.exchange? now accounts = some (e, next))
      (rest : next.Becomes operation own q) : p.Becomes operation (e :: own) q

variable {t : Table} {c : Change} {p q next : Program α} {now : Instant} {accounts : Accounts}
  {operation : String} {e : Exchange} {own later : List Exchange}

theorem Becomes.trans {r : Program α} (first : p.Becomes operation own q)
    (second : q.Becomes operation later r) : p.Becomes operation (own ++ later) r := by
  induction first with
  | refl => exact second
  | resume _ ih => exact .resume (ih second)
  | expire =>
      cases second with
      | refl => exact .expire _
      | exchange _ _ sent => exact absurd sent nofun
  | exchange now accounts sent _ ih => exact .exchange now accounts sent (ih second)

theorem Becomes.of_done {r : Except AccountError α} (h : (done r).Becomes operation own q) :
    own = [] ∧ q = .done r := by
  cases h with
  | refl => exact ⟨rfl, rfl⟩
  | exchange _ _ sent => exact absurd sent nofun

theorem answer?_eq_some {r : Except AccountError α} : p.answer? = some r ↔ p = .done r := by
  cases p <;> simp [answer?]

theorem before_of_exchange? (sent : p.exchange? now accounts = some (e, next)) :
    e.before = accounts ∧ e.now = now := by
  cases p with
  | done | pause => exact absurd sent nofun
  | execute | query =>
      cases sent
      exact ⟨rfl, rfl⟩

theorem Makes.exchange (makes : p.Makes t c) (sent : p.exchange? now accounts = some (e, next)) :
    (e.after = e.before ∧ next.Makes t c ∧ (p.Needs → next.Needs)) ∨
      c.Applies t e.now e.before e.after ∧ e.refusal? = none ∧ ∃ a, next = .done (.ok a) := by
  cases p with
  | done | pause => exact absurd sent nofun
  | execute s more =>
      obtain ⟨writes, success, rest, stops⟩ := makes
      simp only [exchange?, Option.some.injEq, Prod.mk.injEq] at sent
      obtain ⟨rfl, rfl⟩ := sent
      rcases Accounts.execute_cases now accounts writes.table with
        ⟨n, state, run, change⟩ | ⟨run, other⟩ | run
      · obtain ⟨a, ha⟩ := success n
        rw [run]
        exact Or.inr ⟨⟨s, state, writes, change, rfl⟩, rfl, a, ha⟩
      · rw [run]
        refine Or.inl ⟨rfl, rest, fun needs => ?_⟩
        exact needs.resolve_left fun ⟨u, cells, returning, h⟩ => other u cells returning h
      · rw [run]
        exact Or.inl ⟨rfl, (stops.ended _).makes, fun _ => stops.needs _⟩
  | query s more =>
      obtain ⟨sends, rest, stops⟩ := makes
      simp only [exchange?, Option.some.injEq, Prod.mk.injEq] at sent
      obtain ⟨rfl, rfl⟩ := sent
      have table : s.table = t := sends.elim And.left fun h => h.1.table
      rcases Accounts.query_cases now accounts table with
        ⟨cells, returning, state, rfl, run, change⟩ | ⟨mutating, run⟩ | ⟨rows, other, run⟩
      · rcases sends with reads | ⟨writes, cells', returning', same, success⟩
        · exact absurd reads.isMutating nofun
        · cases same
          obtain ⟨a, ha⟩ := success (accounts.get t).next
          rw [run]
          exact Or.inr ⟨⟨_, state, writes, change, rfl⟩, rfl, a, ha⟩
      · rw [run]
        exact Or.inl ⟨rfl, (stops.ended _).makes, fun _ => stops.needs _⟩
      · rw [run]
        refine Or.inl ⟨rfl, rest rows, fun needs => ?_⟩
        exact needs.resolve_left (fun ⟨u, cells, returning, h⟩ => other u cells returning h) rows

/-- However a program goes on, it has changed nothing yet, or its last exchange has made the change
and it has succeeded. -/
theorem Makes.becomes (makes : p.Makes t c) (becomes : p.Becomes operation own q) :
    ((∀ e ∈ own, e.after = e.before) ∧ q.Makes t c ∧ (p.Needs → q.Needs)) ∨
      ∃ earlier last, own = earlier ++ [last] ∧ (∀ e ∈ earlier, e.after = e.before) ∧
        c.Applies t last.now last.before last.after ∧ last.refusal? = none ∧
        ∃ a, q = .done (.ok a) := by
  induction becomes with
  | refl => exact Or.inl ⟨by simp, makes, id⟩
  | resume _ ih => exact ih makes
  | expire => exact Or.inl ⟨by simp, trivial, fun _ => ⟨_, rfl⟩⟩
  | @exchange _ _ _ _ _ e own sent rest ih =>
      rcases makes.exchange sent with ⟨same, later, needs⟩ | ⟨applies, accepted, a, rfl⟩
      · rcases ih later with ⟨others, final, more⟩ | ⟨earlier, last, rfl, others, applied⟩
        · exact Or.inl ⟨List.forall_mem_cons.2 ⟨same, others⟩, final, fun h => more (needs h)⟩
        · exact Or.inr ⟨e :: earlier, last, rfl, List.forall_mem_cons.2 ⟨same, others⟩, applied⟩
      · -- the program is done, so this exchange is its last
        obtain ⟨rfl, rfl⟩ := rest.of_done
        exact Or.inr ⟨[], e, rfl, by simp, applies, accepted, a, rfl⟩

end Program
end AccountStore

import AccountStore.Proofs.Operation.Run

/-!
# Clients that take turns

Any number of clients make calls on the same tables at the same time. In its turn a client sends one
statement or ends a pause; the order of the turns is arbitrary. A world keeps the log of all
exchanges, so that what was true between two statements of a client can be said afterwards.

A client makes one call. One that makes several, each after the answer to the one before, is as many
clients that take their turns in this order.
-/

namespace AccountStore
open Calendar Memory

/-- What a client does in its turn. -/
inductive Turn where
  /-- Sends the next statement, at a time of the database, or ends a pause in time. -/
  | proceed (now : Instant)
  /-- Ends a pause after the deadline. -/
  | expire

structure World (ι : Type) where
  accounts : Accounts
  running : ι → Program StepAnswer
  /-- Who had which exchange with the database, the first one first. -/
  log : List (ι × Exchange)

/-- The exchanges of one client. -/
def ownOf {ι : Type} [DecidableEq ι] (i : ι) (log : List (ι × Exchange)) : List Exchange :=
  log.filterMap fun sent => if sent.1 = i then some sent.2 else none

namespace World

section Turns

variable {ι : Type} [DecidableEq ι]

def start (calls : ι → Stamp × Step) (accounts : Accounts) : World ι :=
  ⟨accounts, fun i => (calls i).2.program (calls i).1, []⟩

def goOn (world : World ι) (i : ι) (p : Program StepAnswer) : World ι :=
  { world with running := fun j => if j = i then p else world.running j }

def record (world : World ι) (i : ι) (e : Exchange) (p : Program StepAnswer) : World ι :=
  { world.goOn i p with accounts := e.after, log := world.log ++ [(i, e)] }

/-- A client that has its answer passes. -/
def turn (calls : ι → Stamp × Step) (world : World ι) (turn : ι × Turn) : World ι :=
  match turn.2, world.running turn.1 with
  | .proceed _, .pause next => world.goOn turn.1 next
  | .expire, .pause _ => world.goOn turn.1 (.fail (.timedOut (calls turn.1).2.operation))
  | .proceed now, p =>
      match p.exchange? now world.accounts with
      | some (e, next) => world.record turn.1 e next
      | none => world
  | .expire, _ => world

/-- The clients take turns, from some tables on. -/
def play (calls : ι → Stamp × Step) (accounts : Accounts) (schedule : List (ι × Turn)) : World ι :=
  schedule.foldl (turn calls) (start calls accounts)

def answer? (world : World ι) (i : ι) : Option (Except AccountError StepAnswer) :=
  (world.running i).answer?

def Succeeds (world : World ι) (i : ι) : Prop :=
  ∃ a, world.answer? i = some (.ok a)

def sentBy (world : World ι) (i : ι) : List Exchange :=
  ownOf i world.log

end Turns

/-! ## What every turn preserves -/

/-- The log leads from the first tables to those of the world, and every client is where its own
exchanges lead it. -/
structure Follows {ι : Type} [DecidableEq ι] (calls : ι → Stamp × Step) (first : Accounts)
    (world : World ι) : Prop where
  linked : Linked first (world.log.map (·.2)) world.accounts
  becomes (i : ι) : ((calls i).2.program (calls i).1).Becomes (calls i).2.operation (world.sentBy i)
    (world.running i)

variable {ι : Type} [DecidableEq ι] {calls : ι → Stamp × Step} {first : Accounts} {world : World ι}
  {i j : ι} {e : Exchange} {p : Program StepAnswer}

theorem running_goOn : (world.goOn i p).running i = p :=
  if_pos rfl

theorem running_goOn_of_ne (h : j ≠ i) : (world.goOn i p).running j = world.running j :=
  if_neg h

theorem running_record : (world.record i e p).running i = p :=
  if_pos rfl

theorem running_record_of_ne (h : j ≠ i) : (world.record i e p).running j = world.running j :=
  if_neg h

theorem sentBy_record : (world.record i e p).sentBy i = world.sentBy i ++ [e] := by
  simp [sentBy, ownOf, record]

theorem sentBy_record_of_ne (h : j ≠ i) : (world.record i e p).sentBy j = world.sentBy j := by
  simp [sentBy, ownOf, record, Ne.symm h]

theorem follows_start (calls : ι → Stamp × Step) (first : Accounts) :
    (start calls first).Follows calls first :=
  ⟨rfl, fun _ => .refl _⟩

theorem Follows.goOn (follows : world.Follows calls first)
    (step : (world.running i).Becomes (calls i).2.operation [] p) :
    (world.goOn i p).Follows calls first := by
  refine ⟨follows.linked, fun j => ?_⟩
  by_cases same : j = i
  · subst same
    rw [running_goOn]
    simpa [sentBy, World.goOn] using (follows.becomes j).trans step
  · rw [running_goOn_of_ne same]
    exact follows.becomes j

theorem Follows.record (follows : world.Follows calls first) (now : Instant)
    (sent : (world.running i).exchange? now world.accounts = some (e, p)) :
    (world.record i e p).Follows calls first := by
  refine ⟨?_, fun j => ?_⟩
  · simp only [World.record, List.map_append, List.map_cons, List.map_nil]
    exact Linked.append.2 ⟨_, follows.linked, (Program.before_of_exchange? sent).1, rfl⟩
  · by_cases same : j = i
    · subst same
      rw [sentBy_record, running_record]
      exact (follows.becomes j).trans (.exchange _ _ sent (.refl p))
    · rw [sentBy_record_of_ne same, running_record_of_ne same]
      exact follows.becomes j

theorem Follows.turn (follows : world.Follows calls first) (turn : ι × Turn) :
    (world.turn calls turn).Follows calls first := by
  obtain ⟨i, turn⟩ := turn
  cases turn with
  | expire =>
      cases running : world.running i with
      | pause next =>
          simp only [World.turn, running]
          exact follows.goOn (running ▸ Program.Becomes.expire next)
      | done | execute | query =>
          simp only [World.turn, running]
          exact follows
  | proceed now =>
      cases running : world.running i with
      | pause next =>
          simp only [World.turn, running]
          exact follows.goOn (running ▸ Program.Becomes.resume (.refl next))
      | done =>
          simp only [World.turn, running, Program.exchange?]
          exact follows
      | execute | query =>
          simp only [World.turn, running, Program.exchange?]
          exact follows.record now (running ▸ rfl)

theorem follows_play (calls : ι → Stamp × Step) (first : Accounts) (schedule : List (ι × Turn)) :
    (play calls first schedule).Follows calls first := by
  unfold play
  -- the induction is over the turns, from any world that they have led to
  generalize begin : start calls first = world
  have follows : world.Follows calls first := begin ▸ follows_start calls first
  clear begin
  induction schedule generalizing world with
  | nil => exact follows
  | cons turn rest ih => exact ih _ (follows.turn turn)

/-! ## Logs -/

theorem mem_sentBy : e ∈ world.sentBy i ↔ (i, e) ∈ world.log := by
  simp only [sentBy, ownOf, List.mem_filterMap]
  constructor
  · rintro ⟨⟨j, e'⟩, member, h⟩
    split at h
    · rename_i same
      cases h
      exact same ▸ member
    · exact absurd h nofun
  · exact fun member => ⟨(i, e), member, if_pos rfl⟩

theorem ownOf_eq_cons {log : List (ι × Exchange)} {rest : List Exchange} :
    ownOf i log = e :: rest ↔
      ∃ before after, log = before ++ (i, e) :: after ∧ (∀ sent ∈ before, sent.1 ≠ i) ∧
        ownOf i after = rest := by
  unfold ownOf
  rw [List.filterMap_eq_cons_iff]
  constructor
  · rintro ⟨before, ⟨j, e'⟩, after, split, others, own, rest⟩
    by_cases same : j = i
    · subst same
      rw [if_pos rfl] at own
      cases own
      exact ⟨before, after, split, fun sent member h => by simpa [h] using others sent member, rest⟩
    · exact absurd ((if_neg same).symm.trans own) nofun
  · rintro ⟨before, after, split, others, rest⟩
    exact ⟨before, (i, e), after, split, fun sent member => if_neg (others sent member),
      if_pos rfl, rest⟩

namespace Follows

/-- A call has changed nothing yet and has not succeeded if it must change something, or its last
exchange has made its change and it has succeeded. -/
theorem cases (follows : world.Follows calls first) (i : ι) :
    ((∀ e ∈ world.sentBy i, e.after = e.before) ∧
        ∀ id, ((calls i).2.change (calls i).1).target? = some id →
          ¬ world.Succeeds i) ∨
      ∃ earlier last, world.sentBy i = earlier ++ [last] ∧ (∀ e ∈ earlier, e.after = e.before) ∧
        ((calls i).2.change (calls i).1).Applies (calls i).2.table last.now last.before last.after ∧
        last.refusal? = none ∧ world.Succeeds i := by
  have makes := (calls i).2.makes_program (calls i).1
  rcases makes.becomes (follows.becomes i) with ⟨same, _, needs⟩ |
    ⟨earlier, last, own, others, applies, accepted, a, ok⟩
  · refine Or.inl ⟨same, fun id target ⟨a, ok⟩ => ?_⟩
    have needy := needs (Step.needs_program target)
    rw [Program.answer?_eq_some.1 ok] at needy
    obtain ⟨e, h⟩ := needy
    exact absurd h nofun
  · exact Or.inr ⟨earlier, last, own, others, applies, accepted, a,
      Program.answer?_eq_some.2 ok⟩

theorem exchange (follows : world.Follows calls first) (member : (i, e) ∈ world.log) :
    e.after = e.before ∨
      ((calls i).2.change (calls i).1).Applies (calls i).2.table e.now e.before e.after ∧
        e.refusal? = none ∧ world.Succeeds i := by
  have own := mem_sentBy.2 member
  rcases follows.cases i with ⟨same, _⟩ | ⟨earlier, last, split, others, applied⟩
  · exact Or.inl (same e own)
  · rw [split] at own
    rcases List.mem_append.1 own with before | final
    · exact Or.inl (others e before)
    · rw [List.mem_singleton.1 final]
      exact Or.inr applied

theorem kept_exchange (follows : world.Follows calls first) (member : (i, e) ∈ world.log) :
    e.before.Kept e.after := by
  rcases follows.exchange member with same | ⟨applies, _⟩
  · exact same ▸ .refl e.before
  · exact applies.kept ((calls i).2.lawful_change (calls i).1)

/-! ## Parts of a log -/

section Parts

variable {a b : Accounts} {part : List (ι × Exchange)}

theorem sound_part (follows : world.Follows calls first) (linked : Linked a (part.map (·.2)) b)
    (sub : part ⊆ world.log) (sound : a.Sound) : b.Sound := by
  refine linked.preserves sound fun e member sound => ?_
  obtain ⟨⟨i, e⟩, there, rfl⟩ := List.mem_map.1 member
  rcases follows.exchange (sub there) with same | ⟨applies, _⟩
  · exact same ▸ sound
  · exact applies.sound ((calls i).2.lawful_change (calls i).1) sound

theorem kept_part (follows : world.Follows calls first) (linked : Linked a (part.map (·.2)) b)
    (sub : part ⊆ world.log) : a.Kept b := by
  refine linked.preserves (P := a.Kept) (.refl a) fun e member kept => kept.trans ?_
  obtain ⟨⟨i, e⟩, there, rfl⟩ := List.mem_map.1 member
  exact follows.kept_exchange (sub there)

/-- What begins to hold begins to hold by the change of a call that succeeds. -/
theorem begins (follows : world.Follows calls first) (linked : Linked a (part.map (·.2)) b)
    (sub : part ⊆ world.log) {P : Accounts → Prop} (start : ¬ P a) (final : P b) :
    ∃ i e, (i, e) ∈ part ∧ ¬ P e.before ∧ P e.after ∧
      ((calls i).2.change (calls i).1).Applies (calls i).2.table e.now e.before e.after ∧
      world.Succeeds i := by
  obtain ⟨_, member, before, after⟩ := linked.exists_begins start final
  obtain ⟨⟨i, e⟩, there, rfl⟩ := List.mem_map.1 member
  rcases follows.exchange (sub there) with same | ⟨applies, _, ok⟩
  · rw [same] at after
    exact absurd after before
  · exact ⟨i, e, there, before, after, applies, ok⟩

end Parts

variable {before middle after : List (ι × Exchange)} {v : Exchange}

theorem split (follows : world.Follows calls first) (log : world.log = before ++ (i, e) :: after) :
    Linked first (before.map (·.2)) e.before ∧ Linked e.after (after.map (·.2)) world.accounts := by
  have linked := follows.linked
  rw [log, List.map_append] at linked
  exact linked.split

theorem between (follows : world.Follows calls first)
    (log : world.log = before ++ (i, e) :: (middle ++ (j, v) :: after)) :
    Linked e.after (middle.map (·.2)) v.before := by
  have linked := (follows.split log).2
  rw [List.map_append] at linked
  exact linked.split.1

theorem kept_between (follows : world.Follows calls first)
    (log : world.log = before ++ (i, e) :: (middle ++ (j, v) :: after)) :
    e.after.Kept v.before := by
  refine follows.kept_part (follows.between log) fun sent member => ?_
  rw [log]
  simp [member]

theorem first_part (follows : world.Follows calls first) (member : (i, e) ∈ world.log) :
    ∃ part, part ⊆ world.log ∧ Linked first (part.map (·.2)) e.before := by
  obtain ⟨before, after, log⟩ := List.append_of_mem member
  exact ⟨before, by simp [log], (follows.split log).1⟩

theorem sound_before (follows : world.Follows calls first) (sound : first.Sound)
    (member : (i, e) ∈ world.log) : e.before.Sound := by
  obtain ⟨part, sub, linked⟩ := follows.first_part member
  exact follows.sound_part linked sub sound

theorem kept_before (follows : world.Follows calls first) (member : (i, e) ∈ world.log) :
    first.Kept e.before := by
  obtain ⟨part, sub, linked⟩ := follows.first_part member
  exact follows.kept_part linked sub

theorem kept_after (follows : world.Follows calls first) (member : (i, e) ∈ world.log) :
    e.after.Kept world.accounts := by
  obtain ⟨before, after, log⟩ := List.append_of_mem member
  exact follows.kept_part (follows.split log).2 (by simp [log])

theorem sound (follows : world.Follows calls first) (sound : first.Sound) :
    world.accounts.Sound :=
  follows.sound_part follows.linked (List.Subset.refl _) sound

end Follows

omit [DecidableEq ι] in
theorem exists_order {v : Exchange} (other : i ≠ j) (left : (i, e) ∈ world.log)
    (right : (j, v) ∈ world.log) :
    (∃ before middle after, world.log = before ++ (i, e) :: (middle ++ (j, v) :: after)) ∨
      ∃ before middle after, world.log = before ++ (j, v) :: (middle ++ (i, e) :: after) := by
  obtain ⟨before, after, log⟩ := List.append_of_mem left
  rw [log] at right
  rcases List.mem_append.1 right with earlier | later
  · obtain ⟨first, middle, rfl⟩ := List.append_of_mem earlier
    exact Or.inr ⟨first, middle, after, by simp [log]⟩
  · rcases List.mem_cons.1 later with same | later
    · exact absurd (congrArg Prod.fst same).symm other
    · obtain ⟨middle, rest, rfl⟩ := List.append_of_mem later
      exact Or.inl ⟨before, middle, rest, log⟩

end World
end AccountStore

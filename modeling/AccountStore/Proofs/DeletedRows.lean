import AccountStore.Proofs.Operation.Run

/-!
# Deleted rows are unobservable

Two databases agree if they have the same live rows and the same next ordinals. Every statement of a
call answers alike on both, the look-up of a deletion marker and the insertion included as long as
no deleted row has the identifier in question, and leaves databases that agree. Hence no run tells
them apart.
-/

namespace AccountStore
open Calendar Memory

namespace Memory.TableState

/-- The tables differ in deleted rows at most. -/
structure Agrees (a b : TableState) : Prop where
  live (row : Row) : row.isLive = true → (row ∈ a.rows ↔ row ∈ b.rows)
  next : a.next = b.next

/-- What agreement means for sound tables: the live rows are the same list. -/
structure Alike (t : Table) (a b : TableState) : Prop where
  left : a.Sound t
  right : b.Sound t
  live : a.live = b.live
  next : a.next = b.next

/-! ## Agreement of sound tables -/

variable {t : Table} {a b state : TableState} {now : Instant}

theorem live_eq_of_agrees (left : a.Sound t) (right : b.Sound t) (agrees : a.Agrees b) :
    a.live = b.live := by
  have orderedLeft := left.ordered.filter Row.isLive
  have orderedRight := right.ordered.filter Row.isLive
  have distinct : ∀ {rows : List Row}, rows.Pairwise (fun a b => a.ordinal < b.ordinal) →
      rows.Nodup := fun ordered => ordered.imp fun lt same => by rw [same] at lt; omega
  refine @List.Perm.eq_of_pairwise _ (fun a b : Row => a.ordinal < b.ordinal) _ _
    (fun x y _ _ xy yx => by omega) orderedLeft orderedRight ?_
  refine (List.perm_ext_iff_of_nodup (distinct orderedLeft) (distinct orderedRight)).2 fun row => ?_
  simp only [List.mem_filter]
  exact and_congr_left fun live => agrees.live row live

theorem alike_of_agrees (left : a.Sound t) (right : b.Sound t) (agrees : a.Agrees b) :
    Alike t a b :=
  ⟨left, right, live_eq_of_agrees left right agrees, agrees.next⟩

theorem Alike.agrees (alike : Alike t a b) : a.Agrees b where
  live row live := by
    have same : row ∈ a.live ↔ row ∈ b.live := by rw [alike.live]
    simpa only [TableState.live, List.mem_filter, live, and_true] using same
  next := alike.next

/-! ## Reads -/

theorem filter_of_live {conditions : List Condition} (gated : .live ∈ conditions)
    (rows : List Row) :
    rows.filter (Row.satisfiesAll conditions) =
      (rows.filter Row.isLive).filter (Row.satisfiesAll conditions) := by
  rw [List.filter_filter]
  refine List.filter_congr fun row _ => ?_
  cases sat : row.satisfiesAll conditions with
  | false => rfl
  | true => rw [Row.isLive_of_satisfiesAll gated sat]; rfl

theorem Alike.filter (alike : Alike t a b) {conditions : List Condition}
    (gated : .live ∈ conditions) :
    a.rows.filter (Row.satisfiesAll conditions) = b.rows.filter (Row.satisfiesAll conditions) := by
  rw [filter_of_live gated, filter_of_live gated b.rows]
  exact congrArg _ alike.live

theorem Alike.countP (alike : Alike t a b) {conditions : List Condition}
    (gated : .live ∈ conditions) :
    a.rows.countP (Row.satisfiesAll conditions) = b.rows.countP (Row.satisfiesAll conditions) := by
  rw [List.countP_eq_length_filter, List.countP_eq_length_filter, alike.filter gated]

theorem Alike.query_gated (alike : Alike t a b) {s : Statement} (gated : s.Gated) :
    ∃ rows, a.query s = (.ok rows, a) ∧ b.query s = (.ok rows, b) := by
  unfold Statement.Gated at gated
  simp only [query]
  cases means : s.meaning with
  | select columns conditions ordered window =>
      simp only [means] at gated
      simp only [select, alike.filter gated]
      exact ⟨_, rfl, rfl⟩
  | count conditions =>
      simp only [means] at gated
      simp only [alike.countP gated]
      exact ⟨_, rfl, rfl⟩
  | found conditions =>
      simp only [means] at gated
      simp only [any_eq_countP, alike.countP gated]
      exact ⟨_, rfl, rfl⟩
  | insert | update => simp only [means] at gated

theorem filter_byId {id : String} (avoids : ¬ state.HasDeleted id) :
    state.rows.filter (Row.satisfiesAll [.equals .id (.text (some id))]) =
      state.live.filter (Row.satisfiesAll [.equals .id (.text (some id))]) := by
  unfold live
  rw [List.filter_filter]
  refine List.filter_congr fun row member => ?_
  cases sat : row.satisfiesAll [.equals .id (.text (some id))] with
  | false => rfl
  | true =>
      cases live : row.isLive with
      | true => rfl
      | false => exact absurd ⟨row, member, Row.satisfiesAll_byId.1 sat, live⟩ avoids

theorem Alike.query_deletionMarker (alike : Alike t a b) {id : String}
    (left : ¬ a.HasDeleted id) (right : ¬ b.HasDeleted id) :
    ∃ rows, a.query (.deletionMarker t id) = (.ok rows, a) ∧
      b.query (.deletionMarker t id) = (.ok rows, b) := by
  simp only [query, Statement.meaning_deletionMarker, select, filter_byId left, filter_byId right,
    alike.live]
  exact ⟨_, rfl, rfl⟩

/-! ## Writes -/

theorem filter_assigned {assignments : List (Column × Assigned)} {conditions : List Condition}
    (gated : .live ∈ conditions) (rows : List Row) :
    (assigned now assignments conditions rows).filter Row.isLive =
      (assigned now assignments conditions (rows.filter Row.isLive)).filter Row.isLive := by
  unfold assigned
  induction rows with
  | nil => rfl
  | cons row rest ih =>
      cases live : row.isLive with
      | true => simp only [List.map_cons, List.filter_cons, live, if_true, ih]
      | false =>
          have unmatched : row.satisfiesAll conditions = false := by
            cases sat : row.satisfiesAll conditions with
            | false => rfl
            | true => exact absurd (Row.isLive_of_satisfiesAll gated sat) (by simp [live])
          simp only [List.map_cons, List.filter_cons, live, unmatched, Bool.false_eq_true, if_false,
            ih]

theorem admits_assigned (now : Instant) (sound : state.Sound t)
    {assignments : List (Column × Assigned)} {conditions : List Condition} (gated : .live ∈ conditions)
    (fixed : ∀ a ∈ assignments, a.1 ≠ .id) :
    Admits state.liveUnique (assigned now assignments conditions state.rows) ↔
      DistinctLive t.liveUnique (assigned now assignments conditions state.live) := by
  unfold Admits DistinctLive live
  rw [sound.indexed, filter_assigned gated]
  exact and_iff_right (distinctIds_assigned fixed sound.distinctIds)

/-- Whether an insertion is admitted shows in the live rows, if no deleted row has the
identifier. -/
theorem admits_inserted (sound : state.Sound t) {id : String} (avoids : ¬ state.HasDeleted id)
    {row : Row} (hid : row .id = .text (some id)) :
    Admits state.liveUnique (state.rows ++ [row]) ↔
      (∀ old ∈ state.live, (old .id).same (row .id) = false) ∧
        DistinctLive t.liveUnique (state.live ++ [row]) := by
  have distinctIds : DistinctIds (state.rows ++ [row]) ↔
      ∀ old ∈ state.live, (old .id).same (row .id) = false := by
    unfold DistinctIds
    rw [List.pairwise_append]
    constructor
    · rintro ⟨_, _, apart⟩ old member
      exact apart old (List.mem_filter.1 member).1 row (List.mem_singleton_self row)
    · refine fun apart => ⟨sound.distinctIds, List.pairwise_singleton _ _, ?_⟩
      intro old member new isNew
      rw [List.mem_singleton.1 isNew]
      cases live : old.isLive with
      | true => exact apart old (List.mem_filter.2 ⟨member, live⟩)
      | false =>
          -- this is where the identifier must not be a deleted row's
          refine (Value.same_eq_false_of_text (sound.typed old member).id).2 fun same => ?_
          exact avoids ⟨old, member, same.trans hid, live⟩
  have distinctLive : DistinctLive t.liveUnique (state.rows ++ [row]) ↔
      DistinctLive t.liveUnique (state.live ++ [row]) := by
    simp only [DistinctLive, live, List.filter_append, List.filter_filter, Bool.and_self]
  unfold Admits
  rw [sound.indexed, distinctIds, distinctLive]

variable {s : Statement}

theorem Alike.execute_update (now : Instant) (alike : Alike t a b)
    {assignments : List (Column × Assigned)} {conditions : List Condition} (lawful : s.Lawful t)
    (means : s.meaning = .update assignments conditions) :
    ∃ r a' b', a.execute now s = (r, a') ∧ b.execute now s = (r, b') ∧ Alike t a' b' ∧
      (r = .ok 0 → a' = a ∧ b' = b) := by
  have soundLeft := alike.left.execute lawful now
  have soundRight := alike.right.execute lawful now
  obtain ⟨gated, rest⟩ := lawful.update means
  have fixed : ∀ a ∈ assignments, a.1 ≠ .id := fun a ha same => (rest a ha).1 (by simp [same])
  have left := admits_assigned now alike.left gated fixed
  have right := admits_assigned now alike.right gated fixed
  rw [← alike.live] at right
  by_cases distinct : DistinctLive t.liveUnique (assigned now assignments conditions a.live)
  · have runLeft := execute_update_of_admits means (left.2 distinct)
    have runRight := execute_update_of_admits means (right.2 distinct)
    rw [runLeft] at soundLeft
    rw [runRight] at soundRight
    rw [← alike.countP gated] at runRight
    refine ⟨_, _, _, runLeft, runRight, ⟨soundLeft, soundRight, ?_, alike.next⟩, fun zero => ?_⟩
    · simp only [TableState.live]
      rw [filter_assigned gated, filter_assigned gated b.rows]
      exact congrArg (fun rows => (assigned now assignments conditions rows).filter Row.isLive)
        alike.live
    · have count := Except.ok.inj zero
      have noneLeft : ∀ row ∈ a.rows, row.satisfiesAll conditions = false := by simpa using count
      rw [alike.countP gated] at count
      have noneRight : ∀ row ∈ b.rows, row.satisfiesAll conditions = false := by simpa using count
      rw [assigned_of_none noneLeft, assigned_of_none noneRight]
      exact ⟨rfl, rfl⟩
  · exact ⟨_, _, _, execute_update_of_not_admits means fun h => distinct (left.1 h),
      execute_update_of_not_admits means fun h => distinct (right.1 h), alike, nofun⟩

theorem Alike.insert (alike : Alike t a b) {id : String} {cells : List (Column × Value)}
    (lawful : (Change.insertion id cells).Lawful t) (left : ¬ a.HasDeleted id)
    (right : ¬ b.HasDeleted id) :
    (∃ a' b', a.insert cells = .ok a' ∧ b.insert cells = .ok b' ∧ Alike t a' b') ∨
      (a.insert cells = .error duplicate ∧ b.insert cells = .error duplicate) := by
  obtain ⟨new, hid⟩ := lawful a.next
  have admitsLeft := admits_inserted alike.left left hid
  have admitsRight := admits_inserted alike.right right hid
  rw [← alike.live] at admitsRight
  have statementLawful : (Statement.insert t cells false).Lawful t :=
    ⟨rfl, fun n => (lawful n).1⟩
  unfold TableState.insert replace
  rw [← alike.next]
  by_cases admitted : Admits a.liveUnique (a.rows ++ [Row.ofCells a.next cells])
  · have admitted' := admitsRight.2 (admitsLeft.1 admitted)
    refine Or.inl ⟨_, _, if_pos admitted, if_pos admitted', ?_, ?_, ?_, rfl⟩
    · exact alike.left.changes statementLawful (Changes.inserted rfl admitted : Changes .epoch ..)
    · rw [alike.next] at admitted' ⊢
      exact alike.right.changes statementLawful (Changes.inserted rfl admitted' : Changes .epoch ..)
    · simp only [TableState.live, List.filter_append]
      exact congrArg (· ++ _) alike.live
  · have refused := fun h => admitted (admitsLeft.2 (admitsRight.1 h))
    exact Or.inr ⟨if_neg admitted, if_neg refused⟩

theorem Alike.execute (now : Instant) (alike : Alike t a b) {c : Change} (lawful : c.Lawful t)
    (writes : c.Writes t s) (left : ∀ id, c.target? = some id → ¬ a.HasDeleted id)
    (right : ∀ id, c.target? = some id → ¬ b.HasDeleted id) :
    ∃ r a' b', a.execute now s = (r, a') ∧ b.execute now s = (r, b') ∧ Alike t a' b' ∧
      (r = .ok 0 → a' = a ∧ b' = b) := by
  have statementLawful := writes.lawful lawful
  cases c with
  | nothing => exact writes.elim
  | insertion id cells =>
      obtain ⟨returning, rfl⟩ := writes
      rcases alike.insert lawful (left id rfl) (right id rfl) with
        ⟨a', b', runLeft, runRight, after⟩ | ⟨runLeft, runRight⟩
      · refine ⟨.ok 1, a', b', ?_, ?_, after, by simp⟩
        · simp only [TableState.execute, Statement.meaning, runLeft]
        · simp only [TableState.execute, Statement.meaning, runRight]
      · refine ⟨.error duplicate, a, b, ?_, ?_, alike, by simp⟩
        · simp only [TableState.execute, Statement.meaning, runLeft]
        · simp only [TableState.execute, Statement.meaning, runRight]
  | replacement | deletion | password | refreshToken =>
      cases writes
      exact alike.execute_update now statementLawful rfl

end Memory.TableState

/-! ## Both tables -/

def Change.Avoids (t : Table) (c : Change) (accounts : Accounts) : Prop :=
  ∀ id, c.target? = some id → ¬ (accounts.get t).HasDeleted id

namespace Memory.Accounts

def Agrees (a b : Accounts) : Prop :=
  ∀ t, (a.get t).Agrees (b.get t)

def Alike (a b : Accounts) : Prop :=
  ∀ t, TableState.Alike t (a.get t) (b.get t)

variable {t : Table} {c : Change} {s : Statement} {a b : Accounts}

theorem Alike.agrees (alike : a.Alike b) : a.Agrees b := fun t => (alike t).agrees

theorem Alike.set (alike : a.Alike b) {x y : TableState} (same : TableState.Alike t x y) :
    (a.set t x).Alike (b.set t y) := by
  intro u
  by_cases h : u = t
  · subst h
    simpa only [get_set] using same
  · simpa only [get_set_of_ne h] using alike u

theorem Alike.execute (now : Instant) (alike : a.Alike b) (lawful : c.Lawful t)
    (writes : c.Writes t s) (left : c.Avoids t a) (right : c.Avoids t b) :
    ∃ r a' b', (driver now).execute s a = (r, a') ∧ (driver now).execute s b = (r, b') ∧
      a'.Alike b' ∧ (r = .ok 0 → a' = a ∧ b' = b) := by
  obtain ⟨r, a', b', runLeft, runRight, after, unchanged⟩ :=
    (alike t).execute now lawful writes left right
  refine ⟨r, _, _, execute_eq writes.table runLeft, execute_eq writes.table runRight,
    alike.set after, fun zero => ?_⟩
  obtain ⟨rfl, rfl⟩ := unchanged zero
  simp only [set_get, and_self]

theorem Alike.query_reads (now : Instant) (alike : a.Alike b) (reads : c.Reads t s)
    (left : c.Avoids t a) (right : c.Avoids t b) :
    ∃ rows, (driver now).query s a = (.ok rows, a) ∧ (driver now).query s b = (.ok rows, b) := by
  have answers : ∃ rows, (a.get t).query s = (.ok rows, a.get t) ∧
      (b.get t).query s = (.ok rows, b.get t) := by
    obtain ⟨rfl, gated | ⟨id, target, hs⟩⟩ := reads
    · exact (alike s.table).query_gated gated
    · have answers := (alike s.table).query_deletionMarker (left id target) (right id target)
      rwa [← hs] at answers
  obtain ⟨rows, runLeft, runRight⟩ := answers
  refine ⟨rows, ?_, ?_⟩
  · rw [query_eq now reads.1 runLeft, set_get]
  · rw [query_eq now reads.1 runRight, set_get]

theorem Alike.query_insert (now : Instant) (alike : a.Alike b) (lawful : c.Lawful t)
    {cells : List (Column × Value)} {returning : Bool}
    (writes : c.Writes t (.insert t cells returning)) (left : c.Avoids t a)
    (right : c.Avoids t b) :
    (∃ a' b', (driver now).query (.insert t cells returning) a =
          (.ok [(a.get t).returned t cells], a') ∧
        (driver now).query (.insert t cells returning) b =
          (.ok [(a.get t).returned t cells], b') ∧ a'.Alike b') ∨
      ((driver now).query (.insert t cells returning) a = (.error TableState.duplicate, a) ∧
        (driver now).query (.insert t cells returning) b = (.error TableState.duplicate, b)) := by
  cases c with
  | insertion id cells' =>
      obtain ⟨_, same⟩ := writes
      cases same
      have table : (Statement.insert t cells returning).table = t := rfl
      rcases (alike t).insert lawful (left id rfl) (right id rfl) with
        ⟨a', b', runLeft, runRight, after⟩ | ⟨runLeft, runRight⟩
      · refine Or.inl ⟨_, _, query_eq now table ?_, query_eq now table ?_, alike.set after⟩
        · simp only [TableState.query, Statement.meaning, runLeft, TableState.returned]
          rfl
        · simp only [TableState.query, Statement.meaning, runRight, TableState.returned, (alike t).next]
          rfl
      · have refused : ∀ x : Accounts, (x.get t).insert cells = .error TableState.duplicate →
            (driver now).query (.insert t cells returning) x =
              (.error TableState.duplicate, x) := by
          intro x failed
          have run : (x.get t).query (.insert t cells returning) =
              (.error TableState.duplicate, x.get t) := by
            simp only [TableState.query, Statement.meaning, failed]
          rw [query_eq now table run, set_get]
        exact Or.inr ⟨refused a runLeft, refused b runRight⟩
  | nothing | replacement | deletion | password | refreshToken => cases writes

end Memory.Accounts

/-! ## Runs -/

/-- Two runs of one program answer alike: until its write takes effect, which ends it, nothing has
changed on either side. -/
theorem Program.Makes.runWithin_alike {t : Table} {c : Change} {p : Program α}
    (makes : p.Makes t c) (lawful : c.Lawful t) {a b : Accounts} (alike : a.Alike b)
    (left : c.Avoids t a) (right : c.Avoids t b) (now : Instant) (timing : Timing)
    (operation : String) (elapsed : Nat) :
    let first := p.runWithin (Accounts.driver now) timing operation elapsed a
    let second := p.runWithin (Accounts.driver now) timing operation elapsed b
    first.1 = second.1 ∧ first.2.Alike second.2 := by
  induction p generalizing elapsed with
  | done r => exact ⟨rfl, alike⟩
  | execute s next ih =>
      obtain ⟨writes, success, rest, stops⟩ := makes
      obtain ⟨r, a', b', runLeft, runRight, after, unchanged⟩ :=
        alike.execute now lawful writes left right
      simp only [Program.runWithin, runLeft, runRight]
      cases r with
      | error e =>
          simp only [stops e]
          exact ⟨rfl, after⟩
      | ok n =>
          cases n with
          | zero =>
              obtain ⟨rfl, rfl⟩ := unchanged rfl
              exact ih (.ok 0) rest elapsed
          | succ n =>
              obtain ⟨x, hx⟩ := success n
              simp only [hx, Program.runWithin]
              exact ⟨trivial, after⟩
  | query s next ih =>
      obtain ⟨reads | ⟨writes, cells, returning, rfl, success⟩, rest, stops⟩ := makes
      · obtain ⟨rows, runLeft, runRight⟩ := alike.query_reads now reads left right
        simp only [Program.runWithin, runLeft, runRight]
        exact ih (.ok rows) (rest rows) elapsed
      · rcases alike.query_insert now lawful writes left right with
          ⟨a', b', runLeft, runRight, after⟩ | ⟨runLeft, runRight⟩
        · obtain ⟨x, hx⟩ := success (a.get t).next
          simp only [Program.runWithin, runLeft, runRight, TableState.returned, hx]
          exact ⟨trivial, after⟩
        · simp only [Program.runWithin, runLeft, runRight, stops TableState.duplicate]
          exact ⟨rfl, alike⟩
  | pause next ih =>
      simp only [Program.runWithin]
      split
      · exact ⟨rfl, alike⟩
      · exact ih makes _

namespace Step

/-- The identifier that the step is given, or that is generated for it, is not that of a deleted
row. Steps that only read live rows, and changes of credentials, may be given any. -/
def Avoids (stamp : Stamp) (step : Step) (accounts : Accounts) : Prop :=
  (step.change stamp).Avoids step.table accounts

theorem run_alike {a b : Accounts} (alike : a.Alike b) {stamp : Stamp} {step : Step}
    (left : step.Avoids stamp a) (right : step.Avoids stamp b) (now : Instant) (timing : Timing) :
    let first := step.run (Accounts.driver now) timing stamp a
    let second := step.run (Accounts.driver now) timing stamp b
    first.1 = second.1 ∧ first.2.Alike second.2 := by
  simp only [run_eq]
  exact (step.makes_program stamp).runWithin_alike (step.lawful_change stamp) alike left right _ _
    _ _

end Step

/-- No step of a run from either database is about the identifier of a row that is deleted there by
then. -/
def AvoidDeleted (timing : Timing) : List (Stamp × Step) → Accounts → Accounts → Prop
  | [], _, _ => True
  | (stamp, step) :: rest, a, b =>
      step.Avoids stamp a ∧ step.Avoids stamp b ∧
        AvoidDeleted timing rest (step.run (Accounts.driver stamp.now) timing stamp a).2
          (step.run (Accounts.driver stamp.now) timing stamp b).2

theorem runSteps_alike {timing : Timing} {steps : List (Stamp × Step)} {a b : Accounts}
    (alike : a.Alike b) (avoid : AvoidDeleted timing steps a b) :
    let first := runSteps Accounts.driver timing steps a
    let second := runSteps Accounts.driver timing steps b
    first.1 = second.1 ∧ first.2.Alike second.2 := by
  induction steps generalizing a b with
  | nil => exact ⟨rfl, alike⟩
  | cons head rest ih =>
      obtain ⟨stamp, step⟩ := head
      obtain ⟨left, right, later⟩ := avoid
      obtain ⟨answer, after⟩ := step.run_alike alike left right stamp.now timing
      obtain ⟨answers, final⟩ := ih after later
      simp only [runSteps]
      exact ⟨by rw [answer, answers], final⟩

/-- Deleted rows are unobservable, to one step and to a run of any length. -/
theorem deleted_unobservable {a b : Accounts} (left : Reachable a) (right : Reachable b)
    (agrees : a.Agrees b) (timing : Timing) :
    (∀ now stamp step, Step.Avoids stamp step a → Step.Avoids stamp step b →
      let first := step.run (Accounts.driver now) timing stamp a
      let second := step.run (Accounts.driver now) timing stamp b
      first.1 = second.1 ∧ first.2.Agrees second.2) ∧
    ∀ steps, AvoidDeleted timing steps a b →
      let first := runSteps Accounts.driver timing steps a
      let second := runSteps Accounts.driver timing steps b
      first.1 = second.1 ∧ first.2.Agrees second.2 := by
  have alike : a.Alike b :=
    fun t => TableState.alike_of_agrees (left.sound t) (right.sound t) (agrees t)
  constructor
  · intro now stamp step avoidsLeft avoidsRight
    exact (step.run_alike alike avoidsLeft avoidsRight now timing).imp_right
      Accounts.Alike.agrees
  · intro steps avoid
    exact (runSteps_alike alike avoid).imp_right Accounts.Alike.agrees

/-- A database with a deleted user and a live one. -/
def afterDeleting (id phoneNumber : String) : Accounts :=
  (runSteps Accounts.driver ⟨0, 30000⟩
    [(⟨"", .epoch⟩, .user (.store (.create { id, phoneNumber }))),
     (⟨"", .epoch⟩, .user (.store (.delete id))),
     (⟨"", .epoch⟩, .user (.store (.create { id := "c", phoneNumber := "+3" })))] .empty).2

/-- The phone numbers of users who were deleted are free again, whoever they were. -/
theorem deleted_unobservable_on_reuse :
    let steps : List (Stamp × Step) :=
      [(⟨"d", .epoch⟩, .user (.service (.create { phoneNumber := "+1" }))),
       (⟨"", .epoch⟩, .user (.store (.update { id := "c", phoneNumber := "+2" }))),
       (⟨"", .epoch⟩, .user (.service (.list .unlimited [])))]
    let a := afterDeleting "a" "+1"
    let b := afterDeleting "b" "+2"
    Reachable a ∧ Reachable b ∧ a.Agrees b ∧ AvoidDeleted ⟨0, 30000⟩ steps a b ∧
      (runSteps Accounts.driver ⟨0, 30000⟩ steps a).1 =
        (runSteps Accounts.driver ⟨0, 30000⟩ steps b).1 := by
  have reachable : ∀ id phoneNumber, Reachable (afterDeleting id phoneNumber) :=
    fun _ _ => Reachable.empty.runSteps _ _
  have agrees : (afterDeleting "a" "+1").Agrees (afterDeleting "b" "+2") := by
    have users : TableState.Alike .users ((afterDeleting "a" "+1").get .users)
        ((afterDeleting "b" "+2").get .users) :=
      ⟨(reachable _ _).sound .users, (reachable _ _).sound .users, rfl, rfl⟩
    have admins : TableState.Alike .admins ((afterDeleting "a" "+1").get .admins)
        ((afterDeleting "b" "+2").get .admins) :=
      ⟨(reachable _ _).sound .admins, (reachable _ _).sound .admins, rfl, rfl⟩
    intro t
    cases t with
    | users => exact users.agrees
    | admins => exact admins.agrees
  intro steps a b
  have avoid : AvoidDeleted ⟨0, 30000⟩ steps a b := by
    refine ⟨?_, ?_, ?_, ?_, ?_, ?_, trivial⟩ <;> rintro id ⟨⟩ <;> decide
  exact ⟨reachable _ _, reachable _ _, agrees, avoid,
    ((deleted_unobservable (reachable _ _) (reachable _ _) agrees _).2 steps avoid).1⟩

end AccountStore

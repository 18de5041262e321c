import AccountStore.Proofs.Operation.Dialogue
import AccountStore.Proofs.Operation.Modification
import AccountStore.Proofs.Operation.Run

/-!
# What calls send, whatever the driver answers

`Disciplined` says of the dialogue of a call how many statements it sends, when it sends a second
one, and what its answer means. All calls are disciplined on every script (`statement_discipline`),
because each of them is one of a few kinds of programs: a read, an insertion, a rotation of
credentials, an update or a deletion, or a check and an insertion.
-/

namespace AccountStore

/-! ## Disciplined dialogues -/

/-- The first statement is the check, and its answer is no. -/
def Free (check? : Option Statement) (said : List Sent) : Prop :=
  ∃ s rows, check? = some s ∧ said.head? = some (.queried s (.ok rows)) ∧
    Store.found? rows = some false

/-- The first statement is the update or the deletion of a row, and affects none. -/
def Missed (c : Change) (id : String) (said : List Sent) : Prop :=
  ∃ s, c.modified? = some id ∧ said.head? = some (.executed s (.ok 0))

def Change.Rotates : Change → Prop
  | .password .. => True
  | .refreshToken .. => True
  | _ => False

/-- What a call with a change has said to the database, after a check if it has one, and what it
answers. -/
structure Disciplined (t : Table) (c : Change) (check? : Option Statement) (said : List Sent)
    (answer : Except AccountError (Answer α)) : Prop where
  writes : said.countP (·.statement.isMutating) ≤ 1
  reads : c = .nothing → ∀ x ∈ said, x.statement.isMutating = false
  failed : ∀ x ∈ said.dropLast, x.failed = false
  length_le : said.length ≤ 2
  second : said.length = 2 ↔ Free check? said ∨ ∃ id, Missed c id said
  /-- After the check comes the insertion. -/
  inserts : Free check? said → ∃ id cells answer, c = .insertion id cells ∧
    said.tail = [.queried (.insert t cells true) answer]
  /-- After an update or a deletion that affects no row comes the look-up. -/
  looksUp (id : String) : Missed c id said →
    ∃ answer, said.tail = [.queried (.deletionMarker t id) answer]
  executes (s : Statement) (n : Except DriverError Nat) : .executed s n ∈ said → c.Writes t s
  modified (id : String) : c.modified? = some id →
    ((∃ a, answer = .ok a) ↔ ∃ s n, said.head? = some (.executed s (.ok (n + 1))))
  rotated : c.Rotates →
    (answer = .ok (.truth true) ↔ ∃ s n, said.head? = some (.executed s (.ok (n + 1)))) ∧
    (answer = .ok (.truth false) ↔ ∃ s, said.head? = some (.executed s (.ok 0)))
  internal (text : String) : answer = .error (.internal text) →
    (∃ cells, said.getLast? = some (.queried (.insert t cells true) (.ok []))) ∨
    ∃ id s row rows, c.modified? = some id ∧
      said = [.executed s (.ok 0), .queried (.deletionMarker t id) (.ok (row :: rows))] ∧
      row.isDeleted = false

@[simp] theorem Statement.isMutating_insert (t : Table) (cells : List (Column × Value))
    (returning : Bool) : (insert t cells returning).isMutating = true := rfl

@[simp] theorem Statement.isMutating_update (t : Table) (assignments : List (Column × Assigned))
    (clauses : List Clause) : (update t assignments clauses).isMutating = true := rfl

@[simp] theorem Statement.isMutating_deletionMarker (t : Table) (id : String) :
    (deletionMarker t id).isMutating = false := rfl

/-! ## Ends -/

namespace AccountError

theorem database_ne_internal (cause : DriverError) (text : String) :
    database cause ≠ internal text := nofun

theorem notFound_ne_internal (text : String) : notFound ≠ internal text := nofun

theorem ofDriver_ne_internal (e : DriverError) (text : String) : ofDriver e ≠ internal text := by
  cases e with
  | failure kind _ => cases kind <;> exact nofun
  | violated broken => cases broken <;> exact nofun
  | undecodable => exact nofun

end AccountError

namespace Program

/-- The program has ended, and not by an internal error. -/
def Settled (p : Program α) : Prop :=
  ∃ r, p = .done r ∧ ∀ text, r ≠ .error (.internal text)

namespace Settled

variable {p : Program α}

theorem ended (settled : p.Settled) : p.Ended := settled.imp fun _ => And.left

theorem pure (a : α) : (Program.pure a).Settled := ⟨_, rfl, nofun⟩

theorem fail {e : AccountError} (other : ∀ text, e ≠ .internal text) :
    (Program.fail e : Program α).Settled :=
  ⟨_, rfl, fun text same => other text (Except.error.inj same)⟩

theorem bind {f : α → Program β} (settled : p.Settled) (next : ∀ a, (f a).Settled) :
    (p.bind f).Settled := by
  obtain ⟨r, rfl, other⟩ := settled
  cases r with
  | ok a => exact next a
  | error e => exact fail fun text same => other text (congrArg Except.error same)

theorem map (settled : p.Settled) (f : α → β) : (f <$> p).Settled :=
  settled.bind fun a => pure (f a)

theorem ofOption {e : AccountError} (other : ∀ text, e ≠ .internal text) (x : Option α) :
    (Program.ofOption e x).Settled := by
  cases x with
  | some a => exact pure a
  | none => exact fail other

theorem reply {next : β → Program α} (settled : ∀ b, (next b).Settled)
    (answer : Except DriverError β) : (reply next answer).Settled := by
  cases answer with
  | ok b => exact settled b
  | error e => exact fail (AccountError.ofDriver_ne_internal e)

theorem ne_internal (settled : p.Settled) {r : Except AccountError α} (result : p = .done r)
    (text : String) : r ≠ .error (.internal text) := by
  obtain ⟨_, rfl, other⟩ := settled
  cases result
  exact other text

end Settled
end Program

/-! ## The kinds of programs -/

section Kinds

variable {t : Table} {c : Change} {check? : Option Statement} {s : Statement} {said : List Sent}
  {answer : Except AccountError (Answer α)}

theorem disciplined_refused (r : Rejection) :
    Disciplined t c check? [] (.error (.validation r) : Except AccountError (Answer α)) where
  writes := by simp
  reads := by simp
  failed := by simp
  length_le := by simp
  second := by simp [Free, Missed]
  inserts := by simp [Free]
  looksUp := by simp [Missed]
  executes := by simp
  modified := by simp
  rotated := by simp
  internal := by simp

theorem disciplined_read {next : List ResultRow → Program (Answer α)} (reads : s.isMutating = false)
    (settled : ∀ rows, (next rows).Settled)
    (speaks : (Program.query s (.reply next)).Speaks said answer) :
    Disciplined t .nothing none said answer := by
  obtain ⟨heard, rfl, result⟩ := speaks.of_query fun rows => (settled rows).ended
  have other := (Program.Settled.reply settled heard).ne_internal result
  constructor <;> simp [Free, Missed, Change.modified?, Change.Rotates, reads, other]

theorem disciplined_create {id : String} {cells : List (Column × Value)} {a : Answer α}
    (speaks : (Program.execute (.insert t cells false) (.reply fun _ => .pure a)).Speaks said
      answer) :
    Disciplined t (.insertion id cells) none said answer := by
  obtain ⟨heard, rfl, result⟩ := speaks.of_execute fun _ => ⟨_, rfl⟩
  have other := (Program.Settled.reply (fun _ => .pure a) heard).ne_internal result
  constructor <;>
    simp [Free, Missed, Change.modified?, Change.Rotates, Change.Writes, other]

theorem disciplined_rotation (mutates : s.isMutating = true) (writes : c.Writes t s)
    (rotates : c.Rotates)
    (speaks : (Program.execute s (.reply fun n => .pure (.truth (decide (0 < n))))).Speaks said
      answer) :
    Disciplined t c none said answer := by
  obtain ⟨heard, rfl, result⟩ := speaks.of_execute fun _ => ⟨_, rfl⟩
  have other := (Program.Settled.reply (fun _ => .pure _) heard).ne_internal result
  have unmodified : c.modified? = none := by cases c <;> first | rfl | exact rotates.elim
  have changes : c ≠ .nothing := by rintro rfl; exact rotates
  constructor
  case rotated =>
    intro _
    rcases heard with e | n
    · cases result
      simp
    · cases result
      cases n <;> simp
  all_goals simp [Free, Missed, unmodified, changes, mutates, writes, other]

/-- What follows an insertion that returns its row: without a row an internal error. -/
def Fetches (next : List ResultRow → Program (Answer α)) : Prop :=
  (next []).Ended ∧ ∀ row rows, (next (row :: rows)).Settled

theorem Fetches.of_query {next : List ResultRow → Program (Answer α)} (fetches : Fetches next)
    (speaks : (Program.query s (.reply next)).Speaks said answer) :
    ∃ heard, said = [.queried s heard] ∧
      ∀ text, answer = .error (.internal text) → heard = .ok [] := by
  have ended : ∀ rows, (next rows).Ended := by
    intro rows
    cases rows with
    | nil => exact fetches.1
    | cons row rows => exact (fetches.2 row rows).ended
  obtain ⟨heard, rfl, result⟩ := speaks.of_query ended
  refine ⟨heard, rfl, fun text internal => ?_⟩
  subst internal
  match heard, result with
  | .ok [], _ => rfl
  | .ok (row :: rows), result => exact absurd rfl ((fetches.2 row rows).ne_internal result text)
  | .error e, result =>
      exact absurd (Except.error.inj (Program.done.inj result))
        (AccountError.ofDriver_ne_internal e text)

theorem disciplined_fetch {id : String} {cells : List (Column × Value)}
    {next : List ResultRow → Program (Answer α)} (fetches : Fetches next)
    (speaks : (Program.query (.insert t cells true) (.reply next)).Speaks said answer) :
    Disciplined t (.insertion id cells) none said answer := by
  obtain ⟨heard, rfl, internal⟩ := fetches.of_query speaks
  constructor
  case internal => exact fun text error => Or.inl ⟨cells, by rw [internal text error]; rfl⟩
  all_goals simp [Free, Missed, Change.modified?, Change.Rotates]

/-- A check, and unless somebody is found the insertion of a row. -/
def checkedInsertion (subject : String) (check : Statement) (t : Table)
    (cells : List (Column × Value)) (next : List ResultRow → Program (Answer α)) :
    Program (Answer α) :=
  .query check (.reply fun rows =>
    (Program.ofOption (.database .undecodable) (Store.found? rows)).bind fun taken =>
      if taken then .fail (.conflict subject)
      else .pause (.query (.insert t cells true) (.reply next)))

theorem Fetches.of_checkedInsertion {subject : String} {check : Statement}
    {cells : List (Column × Value)} {next : List ResultRow → Program (Answer α)}
    (fetches : Fetches next)
    (speaks : (checkedInsertion subject check t cells next).Speaks said answer) :
    (∃ heard, said = [.queried check heard] ∧
        (∀ rows, heard = .ok rows → Store.found? rows ≠ some false) ∧
        ∀ text, answer ≠ .error (.internal text)) ∨
      ∃ rows heard, said = [.queried check (.ok rows), .queried (.insert t cells true) heard] ∧
        Store.found? rows = some false ∧
        ∀ text, answer = .error (.internal text) → heard = .ok [] := by
  cases speaks with
  | @query _ _ heard said _ rest =>
      rcases heard with e | rows
      · obtain ⟨rfl, result⟩ := rest.of_ended ⟨_, rfl⟩
        cases result
        exact Or.inl ⟨_, rfl, nofun, fun text same =>
          AccountError.ofDriver_ne_internal e text (Except.error.inj same)⟩
      · change (Program.bind _ _).Speaks said answer at rest
        cases found : Store.found? rows with
        | none =>
            rw [found] at rest
            obtain ⟨rfl, result⟩ := rest.of_ended ⟨_, rfl⟩
            cases result
            exact Or.inl ⟨_, rfl, by simp [found], nofun⟩
        | some taken =>
            rw [found] at rest
            cases taken with
            | true =>
                obtain ⟨rfl, result⟩ := rest.of_ended ⟨_, rfl⟩
                cases result
                exact Or.inl ⟨_, rfl, by simp [found], nofun⟩
            | false =>
                cases rest with
                | pause rest =>
                    obtain ⟨heard, rfl, internal⟩ := fetches.of_query rest
                    exact Or.inr ⟨rows, heard, rfl, found, internal⟩

theorem disciplined_checkedInsertion {subject : String} {check : Statement}
    (reads : check.isMutating = false) {id : String} {cells : List (Column × Value)}
    {next : List ResultRow → Program (Answer α)} (fetches : Fetches next)
    (speaks : (checkedInsertion subject check t cells next).Speaks said answer) :
    Disciplined t (.insertion id cells) (some check) said answer := by
  rcases fetches.of_checkedInsertion speaks with
    ⟨heard, rfl, taken, other⟩ | ⟨rows, heard, rfl, free, internal⟩
  · constructor
    case second => simpa [Free, Missed] using taken
    case inserts =>
      rintro ⟨_, rows, _, first, free⟩
      cases first
      exact absurd free (taken rows rfl)
    all_goals simp [Missed, Change.modified?, Change.Rotates, reads, other]
  · constructor
    case internal => exact fun text error => Or.inl ⟨cells, by rw [internal text error]; rfl⟩
    all_goals simp [Free, Missed, List.countP_cons, Change.modified?, Change.Rotates, reads, free]

theorem Program.Speaks.of_modification {id : String} {a : Answer α}
    (speaks : (Program.modification t id s a).Speaks said answer) :
    (∃ heard, heard ≠ .ok 0 ∧ said = [.executed s heard] ∧
        reply (fun _ => .pure a) heard = .done answer) ∨
      ∃ heard, said = [.executed s (.ok 0), .queried (.deletionMarker t id) heard] ∧
        reply (fun rows => .fail (Store.missing rows)) heard = .done answer := by
  cases speaks with
  | @execute _ _ heard said _ rest =>
      match heard with
      | .error e =>
          obtain ⟨rfl, result⟩ := rest.of_ended ⟨_, rfl⟩
          exact Or.inl ⟨.error e, nofun, rfl, result⟩
      | .ok 0 =>
          obtain ⟨heard, rfl, result⟩ := Program.Speaks.of_query rest fun rows => ⟨_, rfl⟩
          exact Or.inr ⟨heard, rfl, result⟩
      | .ok (n + 1) =>
          obtain ⟨rfl, result⟩ := rest.of_ended ⟨_, rfl⟩
          exact Or.inl ⟨_, by simp, rfl, result⟩

theorem Store.missing_eq_internal {rows : List ResultRow} {text : String}
    (internal : missing rows = .internal text) :
    ∃ row rest, rows = row :: rest ∧ row.isDeleted = false := by
  cases rows with
  | nil => exact absurd internal nofun
  | cons row rest =>
      refine ⟨row, rest, rfl, Bool.eq_false_iff.2 fun deleted => ?_⟩
      simp [missing, deleted] at internal

theorem disciplined_modification {id : String} {a : Answer α} (writes : c.Writes t s)
    (target : c.modified? = some id)
    (speaks : (Program.modification t id s a).Speaks said answer) :
    Disciplined t c none said answer := by
  obtain ⟨assignments, rfl, _⟩ := writes.of_modified? target
  have changes : c ≠ .nothing := by
    rintro rfl
    exact absurd target nofun
  have keeps : ¬ c.Rotates := by
    cases c with
    | replacement | deletion => exact fun rotates => rotates
    | nothing | insertion | password | refreshToken => exact absurd target nofun
  rcases speaks.of_modification with ⟨heard, affects, rfl, result⟩ | ⟨heard, rfl, result⟩
  · have other := (Program.Settled.reply (fun _ => .pure a) heard).ne_internal result
    constructor
    case modified =>
      intro _ _
      match heard, affects, result with
      | .error e, _, result => cases result; simp
      | .ok (n + 1), _, result => cases result; simp
    all_goals simp [Free, Missed, changes, keeps, writes, affects, other]
  · constructor
    case modified =>
      intro _ _
      rcases heard with e | rows <;> cases result <;> simp
    case internal =>
      rintro text rfl
      rcases heard with e | rows
      · exact absurd (Except.error.inj (Program.done.inj result))
          (AccountError.ofDriver_ne_internal e text)
      · obtain ⟨row, rest, rfl, live⟩ :=
          Store.missing_eq_internal (Except.error.inj (Program.done.inj result))
        exact Or.inr ⟨id, _, row, rest, target, rfl, live⟩
    all_goals simp [Free, Missed, List.countP_cons, target, changes, keeps, writes]

end Kinds

/-! ## Calls -/

section Calls

variable {α : Type} [Account α] {stamp : Stamp} {said : List Sent}
  {answer : Except AccountError (Answer α)}

/-- The check that a call begins with before it inserts. -/
def Call.check? (stamp : Stamp) : Call α → Option Statement
  | .service (.create a) => some (.found (Account.table α)
      (Account.predicate (Account.guard (Account.assignIdentity stamp a))))
  | _ => none

theorem Store.settled_ofRow (row : ResultRow) : (ofRow row : Program α).Settled :=
  .ofOption (AccountError.database_ne_internal _) _

theorem Store.fetches_ofRow :
    Fetches fun rows => ((Program.ofOption (.internal "insert returned no row") rows.head?).bind
      (ofRow (α := α))).bind (.pure ∘ Answer.account) :=
  ⟨⟨_, rfl⟩, fun row _ => (settled_ofRow row).map Answer.account⟩

theorem StoreCall.program_create (a : α) :
    (create a).program = .execute (.insert (Account.table α)
      (Store.cells (Account.table α).insertable a) false)
        (.reply fun _ => .pure (.id (Account.id a))) := by
  change Answer.id <$> Store.create a = _
  rw [Store.create_eq, Program.map_execute]
  rfl

theorem StoreCall.program_createAndFetch (a : α) :
    (createAndFetch a).program = .query (.insert (Account.table α)
      (Store.cells (Account.table α).insertable a) true) (.reply fun rows =>
        ((Program.ofOption (.internal "insert returned no row") rows.head?).bind
          Store.ofRow).bind (.pure ∘ .account)) := by
  change Answer.account <$> Store.createAndFetch a = _
  rw [Store.createAndFetch_eq, Program.map_query]
  rfl

theorem StoreCall.disciplined (call : StoreCall α) (speaks : call.program.Speaks said answer) :
    Disciplined (Account.table α) call.change none said answer := by
  cases call with
  | create a =>
      rw [program_create] at speaks
      exact disciplined_create speaks
  | createAndFetch a =>
      rw [program_createAndFetch] at speaks
      exact disciplined_fetch Store.fetches_ofRow speaks
  | get id =>
      change (Answer.account <$> Store.get id).Speaks said answer at speaks
      rw [Store.get_eq, Program.map_query] at speaks
      refine disciplined_read rfl (fun rows => Program.Settled.map ?_ _) speaks
      exact (Program.Settled.ofOption AccountError.notFound_ne_internal _).bind
        Store.settled_ofRow
  | list page filters =>
      change (Answer.accounts <$> Store.list page filters).Speaks said answer at speaks
      rw [Store.list_eq, Program.map_query] at speaks
      refine disciplined_read rfl (fun rows => Program.Settled.map ?_ _) speaks
      exact .ofOption (AccountError.database_ne_internal _) _
  | update a =>
      rw [program_update] at speaks
      exact disciplined_modification rfl rfl speaks
  | delete id =>
      rw [program_delete] at speaks
      exact disciplined_modification rfl rfl speaks
  | checkField field value =>
      change (Answer.truth <$> Store.checkField _ field value).Speaks said answer at speaks
      rw [Store.checkField_eq_counted, Program.map_query] at speaks
      refine disciplined_read rfl (fun rows => Program.Settled.map ?_ _) speaks
      exact .ofOption (AccountError.database_ne_internal _) _
  | ifExists lookup =>
      change (Answer.truth <$> Store.ifExists _ _).Speaks said answer at speaks
      rw [Store.ifExists_eq_found, Program.map_query] at speaks
      refine disciplined_read rfl (fun rows => Program.Settled.map ?_ _) speaks
      exact .ofOption (AccountError.database_ne_internal _) _
  | changePassword contact password =>
      change (Answer.truth <$> Store.changePassword _ _ password).Speaks said answer at speaks
      rw [Store.changePassword_eq, Program.map_execute] at speaks
      exact disciplined_rotation rfl rfl trivial speaks
  | updateRefreshToken id token =>
      change (Answer.truth <$> Store.updateRefreshToken _ id token).Speaks said answer at speaks
      rw [Store.updateRefreshToken_eq, Program.map_execute] at speaks
      exact disciplined_rotation rfl rfl trivial speaks

/-- A creation is refused, or it is a check and the insertion of what was filled in. -/
theorem ServiceCall.program_create_cases (stamp : Stamp) (a : α) :
    (∃ r, (create a).program stamp = .fail (.validation r)) ∨
      ∃ next, Fetches next ∧ (create a).program stamp =
        .pause (checkedInsertion (Account.subject α) (.found (Account.table α)
            (Account.predicate (Account.guard (Account.assignIdentity stamp a)))) (Account.table α)
          (Store.cells (Account.table α).insertable (Account.assignIdentity stamp a)) next) := by
  rcases Service.checked_cases (Account.assignIdentity stamp a) (.pause
    ((Store.ifExists (Account.table α)
      (Account.predicate (Account.guard (Account.assignIdentity stamp a)))).bind fun b =>
        if b then .fail (.conflict (Account.subject α))
        else .pause (Store.createAndFetch (Account.assignIdentity stamp a)))) with
      passed | ⟨r, refused⟩
  · refine Or.inr ⟨_, Store.fetches_ofRow, (congrArg (Answer.account <$> ·) passed).trans ?_⟩
    rw [Store.ifExists_eq_found, Store.createAndFetch_eq]
    refine congrArg (fun next => Program.pause (.query _ next)) (funext fun answer => ?_)
    cases answer with
    | error e => rfl
    | ok rows =>
        simp only [Program.reply]
        cases Store.found? rows with
        | none => rfl
        | some taken =>
            cases taken with
            | true => rfl
            | false => exact congrArg Program.pause (Program.map_query Answer.account _ _)
  · exact Or.inl ⟨r, congrArg (Answer.account <$> ·) refused⟩

theorem ServiceCall.disciplined (call : ServiceCall α)
    (speaks : (call.program stamp).Speaks said answer) :
    Disciplined (Account.table α) (call.change stamp) ((Call.service call).check? stamp) said
      answer := by
  -- Apart from creations these are calls on the table after a pause, unless they are refused.
  have later (store : StoreCall α) (speaks : (Program.pause store.program).Speaks said answer) :
      Disciplined (Account.table α) store.change none said answer := by
    cases speaks with
    | pause rest => exact store.disciplined rest
  cases call with
  | create a =>
      rcases program_create_cases stamp a with ⟨r, refused⟩ | ⟨next, fetches, eq⟩
      · rw [refused] at speaks
        cases speaks
        exact disciplined_refused r
      · rw [eq] at speaks
        cases speaks with
        | pause speaks => exact disciplined_checkedInsertion rfl fetches speaks
  | get id => exact later (.get id) speaks
  | list page filters => exact later (.list page filters) speaks
  | update a =>
      change ((fun _ => Answer.done) <$> Service.update stamp a).Speaks said answer at speaks
      rcases Service.update_cases stamp a with ⟨r, refused⟩ | accepted
      · rw [refused] at speaks
        cases speaks
        exact disciplined_refused r
      · rw [accepted] at speaks
        exact later (.update (Account.touch stamp.now a)) speaks
  | delete id => exact later (.delete id) speaks
  | checkField name value =>
      change (Answer.truth <$> Service.checkField (Account.table α) name value).Speaks said answer
        at speaks
      unfold Service.checkField at speaks
      split at speaks
      next field _ => exact later (.checkField field value) speaks
      next =>
        cases speaks
        exact disciplined_refused _
  | ifExists lookup => exact later (.ifExists lookup) speaks
  | changePassword contact password =>
      exact later (.changePassword contact password) speaks
  | updateRefreshToken id token => exact later (.updateRefreshToken id token) speaks

theorem Call.disciplined (call : Call α) (speaks : (call.program stamp).Speaks said answer) :
    Disciplined (Account.table α) (call.change stamp) (call.check? stamp) said answer := by
  cases call with
  | store call => exact call.disciplined speaks
  | service call => exact call.disciplined speaks

end Calls

/-- Every call whose deadline does not elapse is disciplined, whatever is scripted: the statements
in the log are those of a dialogue with the script. -/
theorem statement_discipline {α : Type} [Account α] (timing : Timing) (stamp : Stamp)
    (call : Call α) (script : Script)
    (inTime : (call.run Script.driver timing stamp script).1 ≠
      .error (.timedOut call.operation)) :
    let run := call.run Script.driver timing stamp script
    ∃ said, Script.driver.Answers script said run.2 ∧
      run.2.log = script.log ++ said.map Sent.statement ∧
      Disciplined (Account.table α) (call.change stamp) (call.check? stamp) said run.1 := by
  intro run
  have eq : run = (call.program stamp).run Script.driver script :=
    (call.run_eq _ _ _ _).trans (Program.runWithin_eq_run_of_inTime (call.run_eq .. ▸ inTime))
  obtain ⟨said, answers, speaks⟩ :=
    Program.exists_speaks Script.driver (call.program stamp) script
  rw [← eq] at answers speaks
  exact ⟨said, answers, Script.log_of_answers answers, call.disciplined speaks⟩

/-- An update that affects no row looks the deletion marker up, and a row without one is no reason
that it knows. -/
theorem statement_discipline_of_changed :
    let call : Call User := .service (.update { id := "a", phoneNumber := "+1" })
    let script : Script := ⟨[.ok 0], [.ok [[("deleted_at", .timestamp none)]]], []⟩
    let run := call.run Script.driver ⟨0, 30000⟩ ⟨"", .epoch⟩ script
    run.1 = .error (.internal "row changed while being modified") ∧
      ∃ said, Script.driver.Answers script said run.2 ∧
        run.2.log = script.log ++ said.map Sent.statement ∧
        Disciplined .users (call.change ⟨"", .epoch⟩) none said run.1 := by
  intro call script run
  have internal : run.1 = .error (.internal "row changed while being modified") := by rfl
  have inTime : run.1 ≠ .error (.timedOut call.operation) := by
    rw [internal]
    exact nofun
  exact ⟨internal, statement_discipline ⟨0, 30000⟩ ⟨"", .epoch⟩ call script inTime⟩

end AccountStore

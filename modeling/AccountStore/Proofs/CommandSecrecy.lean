import AccountStore.Command.Run
import AccountStore.Proofs.Account.Field
import AccountStore.Proofs.Redaction.Database

/-!
# Secrets and the command line

Calls keep a database and its redacted copy that way, redacted on the copy. Commands carry no
secrets and print none, so they have the same outcomes on both; only checking the refresh token
tells them apart. Preparations that differ in secrets alone have the same redacted copy.
-/

namespace AccountStore
open Calendar Memory

/-! ## Reading programs -/

/-- The program only reads. -/
def Program.OnlyReads : Program α → Prop
  | .done _ => True
  | .execute .. => False
  | .query s next => s.isMutating = false ∧ ∀ answer, (next answer).OnlyReads
  | .pause next => next.OnlyReads

theorem Memory.TableState.query_of_reads {s : Statement} (reads : s.isMutating = false)
    (state : TableState) : (state.query s).2 = state := by
  unfold Statement.isMutating at reads
  unfold query
  cases means : s.meaning with
  | select | count | found => rfl
  | insert | update => simp only [means, Bool.true_eq_false] at reads

theorem Memory.Database.query_of_reads {s : Statement} (reads : s.isMutating = false)
    (now : Instant) (db : Database) : ((driver now).query s db).2 = db := by
  have unchanged : (Accounts.query s db.accounts).2 = db.accounts := by
    simp only [Accounts.query, TableState.query_of_reads reads]
    cases s.table <;> rfl
  simp only [driver, guarded, unchanged]
  split <;> rfl

namespace Program

variable {p : Program α}

theorem Ended.onlyReads (ended : p.Ended) : p.OnlyReads := by
  obtain ⟨r, rfl⟩ := ended
  trivial

theorem OnlyReads.map (reads : p.OnlyReads) (f : α → β) : (f <$> p).OnlyReads := by
  change (p.bind (pure ∘ f)).OnlyReads
  induction p with
  | done r => cases r <;> trivial
  | execute s next ih => exact reads.elim
  | query s next ih => exact ⟨reads.1, fun answer => ih answer (reads.2 answer)⟩
  | pause next ih => exact ih reads

theorem OnlyReads.runWithin (reads : p.OnlyReads) (now : Instant) (timing : Timing)
    (operation : String) (elapsed : Nat) (db : Database) :
    (p.runWithin (Database.driver now) timing operation elapsed db).2 = db := by
  induction p generalizing elapsed with
  | done r => rfl
  | execute s next ih => exact reads.elim
  | query s next ih =>
      have same : ((Database.driver now).query s db).2 = db := Database.query_of_reads reads.1 now db
      simp only [Program.runWithin, same]
      exact ih _ (reads.2 _) elapsed
  | pause next ih =>
      simp only [Program.runWithin]
      split
      · rfl
      · exact ih reads _

end Program

theorem Store.onlyReads_checkField (t : Table) (field : Field t) (value : String) :
    (checkField t field value).OnlyReads := by
  rw [checkField_eq_counted]
  exact ⟨rfl, fun answer =>
    (Program.ended_reply (fun _ => Program.ended_ofOption _ _) answer).onlyReads⟩

namespace Secrets

variable {k : Secrets}

section Calls

variable {α : Type} [Account α]

theorem onlyReads_of_checksSecret {call : Call α} (checks : call.ChecksSecret k) (stamp : Stamp) :
    (call.program stamp).OnlyReads := by
  cases call with
  | store call =>
      cases call with
      | checkField field value => exact (Store.onlyReads_checkField _ field value).map _
      | create | createAndFetch | get | list | update | delete | ifExists | changePassword
      | updateRefreshToken => exact checks.elim
  | service call =>
      cases call with
      | checkField name value =>
          obtain ⟨field, found, _⟩ := checks
          refine Program.OnlyReads.map (p := Service.checkField _ name value) ?_ _
          unfold Service.checkField
          rw [found]
          exact Store.onlyReads_checkField _ field value
      | create | get | list | update | delete | ifExists | changePassword | updateRefreshToken =>
          exact checks.elim

variable [Account.Redacted α]

theorem call_of_checksSecret {call : Call α} (checks : call.ChecksSecret k) :
    k.call call = call := by
  cases call with
  | store call => cases call <;> first | rfl | exact checks.elim
  | service call => cases call <;> first | rfl | exact checks.elim

/-- A call that checks no secret answers the redacted call's answer from the redacted copy. -/
theorem Redacts.run {a b : Database} (start : k.Redacts a b) (timing : Timing) (stamp : Stamp)
    {call : Call α} (seen : ¬ call.ChecksSecret k) :
    let run := call.run (Database.driver stamp.now) timing stamp a
    let redacted := (k.call call).run (Database.driver stamp.now) timing stamp b
    Likewise Eq (fun x y => y = k.answer x) run.1 redacted.1 ∧ k.Redacts run.2 redacted.2 := by
  intro run redacted
  have together := (together_call k stamp call seen).runWithin (driver_matches k stamp.now)
    (call.timing timing) call.operation 0 start
  have run_eq : run = (call.program stamp).runWithin (Database.driver stamp.now)
      (call.timing timing) call.operation 0 a := Call.run_eq _ timing stamp call a
  have redacted_eq : redacted = ((k.call call).program stamp).runWithin (Database.driver stamp.now)
      (call.timing timing) call.operation 0 b := by
    rw [← timing_call k, ← operation_call k]
    exact Call.run_eq _ timing stamp _ b
  rw [run_eq, redacted_eq]
  exact together

theorem Redacts.after {a b : Database} (start : k.Redacts a b) (timing : Timing) (stamp : Stamp)
    (call : Call α) :
    k.Redacts (call.run (Database.driver stamp.now) timing stamp a).2
      ((k.call call).run (Database.driver stamp.now) timing stamp b).2 := by
  by_cases checks : call.ChecksSecret k
  -- The copy may answer otherwise then, but nothing is written on either side.
  · have reads := onlyReads_of_checksSecret checks stamp
    rw [call_of_checksSecret checks, Call.run_eq, Call.run_eq, reads.runWithin, reads.runWithin]
    exact start
  · exact (start.run timing stamp checks).2

end Calls

/-! ## Preparations -/

def step (k : Secrets) : Step → Step
  | .user call => .user (k.call call)
  | .admin call => .admin (k.call call)

/-- The steps with their stamps, without what is secret in them. -/
def steps (k : Secrets) (steps : List (Stamp × Step)) : List (Stamp × Step) :=
  steps.map fun x => (x.1, k.step x.2)

theorem Redacts.runSteps {a b : Database} (start : k.Redacts a b) (timing : Timing)
    (steps : List (Stamp × Step)) :
    k.Redacts (runSteps Database.driver timing steps a).2
      (runSteps Database.driver timing (k.steps steps) b).2 := by
  induction steps generalizing a b with
  | nil => exact start
  | cons x rest ih =>
      obtain ⟨stamp, step⟩ := x
      cases step with
      | user call => exact ih (start.after timing stamp call)
      | admin call => exact ih (start.after timing stamp call)

end Secrets

/-- The database that steps prepare for commands. -/
def prepared (backend : Backend) (markerIndexed : List Table) (applied : List String)
    (timing : Timing) (steps : List (Stamp × Step)) : Database :=
  (runSteps Database.driver timing steps (.initial backend markerIndexed applied)).2

theorem Secrets.redacts_prepared (k : Secrets) (backend : Backend) (markerIndexed : List Table)
    (applied : List String) (timing : Timing) (steps : List (Stamp × Step)) :
    k.Redacts (prepared backend markerIndexed applied timing steps)
      (prepared backend markerIndexed applied timing (k.steps steps)) :=
  (k.redacts_initial backend markerIndexed applied).runSteps timing steps

namespace Command

open Secrets

variable {k : Secrets} {a b : Database}

/-- Asks for a refresh token, where those are secret. -/
def ChecksToken (k : Secrets) : AccountAction → Prop
  | .checkField name _ => k = .credentials ∧ name = "refresh_token"
  | _ => False

theorem name_of_hides (k : Secrets) (t : Table) :
    ∀ c ∈ t.checkable, k.hides c = true → k = .credentials ∧ c.name t = "refresh_token" := by
  cases k <;> cases t <;> decide

theorem call_of_serviceCall {α : Type} [Account α] [Account.Redacted α] {action : AccountAction}
    {call : ServiceCall α} (read : serviceCall action = .ok call) (seen : ¬ ChecksToken k action) :
    k.call (.service call) = .service call ∧ ¬ (Call.service call).ChecksSecret k := by
  cases action with
  | get id | delete id =>
      cases read
      exact ⟨rfl, not_false⟩
  | list options =>
      simp only [serviceCall] at read
      generalize filters options.filters = read? at read
      cases read? with
      | error e => exact absurd read nofun
      | ok filters =>
          cases read
          exact ⟨rfl, not_false⟩
  | checkField name value =>
      cases read
      refine ⟨rfl, ?_⟩
      rintro ⟨field, found, hidden⟩
      have named := Field.name_of_ofName? found
      obtain ⟨secret, token⟩ := name_of_hides k _ field.column field.checkable hidden
      exact seen ⟨secret, named.symm.trans token⟩

theorem answerText_answer {α : Type} [Account α] [Account.Redacted α] (k : Secrets)
    (answer : Answer α) : answerText (k.answer answer) = answerText answer := by
  cases answer with
  | done | id | truth => rfl
  | account a => simp only [answerText, Secrets.answer, Account.Redacted.toJson_redact]
  | accounts list =>
      simp only [answerText, Secrets.answer, List.map_map, Function.comp_def,
        Account.Redacted.toJson_redact]

theorem answerLines_answer {α : Type} [Account α] [Account.Redacted α] (k : Secrets)
    (action : AccountAction) (answer : Answer α) :
    answerLines action (k.answer answer) = answerLines action answer := by
  cases action with
  | delete id => rfl
  | get | list | checkField => simp only [answerLines, answerText_answer]

/-- Two commands ended in the same way and put the same on standard output, and the second database
is still the first one redacted. -/
structure RanAlike (k : Secrets) (x y : Ran) : Prop where
  result : x.result = y.result
  output : x.output = y.output
  db : k.Redacts x.db y.db

theorem RanAlike.after {x y : Ran} (alike : RanAlike k x y) (lines : List Line) :
    RanAlike k (x.after lines) (y.after lines) :=
  ⟨alike.result, congrArg (lines ++ ·) alike.output, alike.db⟩

theorem alike_runAccount (α : Type) [Account α] [Account.Redacted α] (start : k.Redacts a b)
    (timing : Timing) (stamp : Stamp) {action : AccountAction} (seen : ¬ ChecksToken k action) :
    RanAlike k (runAccount α timing stamp action a) (runAccount α timing stamp action b) := by
  unfold runAccount
  cases read : serviceCall (α := α) action with
  | error rejection => exact ⟨rfl, rfl, start⟩
  | ok call =>
      obtain ⟨same, unchecked⟩ := call_of_serviceCall read seen
      obtain ⟨answers, after⟩ := start.run timing stamp unchecked
      rw [same] at answers after
      dsimp only
      generalize (Call.service call).run (Database.driver stamp.now) timing stamp a = x
        at answers after
      generalize (Call.service call).run (Database.driver stamp.now) timing stamp b = y
        at answers after
      obtain ⟨x, a'⟩ := x
      obtain ⟨y, b'⟩ := y
      cases answers with
      | ok redacted =>
          rw [redacted]
          exact ⟨rfl, (answerLines_answer k action _).symm, after⟩
      | error same =>
          rw [same]
          exact ⟨rfl, rfl, after⟩

theorem alike_changed {x y : Except DriverError Unit × Database} (alike : k.Alike x y)
    (event : LogEvent) : RanAlike k (changed event x) (changed event y) := by
  cases alike with
  | intro given after => cases given <;> exact ⟨rfl, rfl, after⟩

theorem alike_runMigrate (start : k.Redacts a b) (action : MigrateAction) :
    RanAlike k (runMigrate action a) (runMigrate action b) := by
  cases action with
  | up => exact alike_changed start.up _
  | down => exact alike_changed start.down _
  | fresh => exact (alike_changed start.fresh _).after _
  | status =>
      have status : b.status = a.status := by
        rw [start.eq]
        rfl
      simp only [runMigrate, status]
      split <;> exact ⟨rfl, rfl, start⟩

/-- A command on a database and on its redacted copy. -/
theorem alike_runOn (start : k.Redacts a b) (config : ServiceConfig) (stamp : Stamp)
    {command : Command}
    (seen : ∀ t action, command = .account t action → ¬ ChecksToken k action) :
    RanAlike k (runOn config stamp command a) (runOn config stamp command b) := by
  cases command with
  | migrate action => exact alike_runMigrate start action
  | ping => exact ⟨rfl, rfl, start⟩
  | account t action =>
      have up := start.up
      simp only [runOn]
      generalize a.up = x at up
      generalize b.up = y at up
      cases up with
      | intro result after =>
          cases result with
          | error e => exact ⟨rfl, rfl, after⟩
          | ok =>
              cases t with
              | users => exact (alike_runAccount User after _ stamp (seen .users action rfl)).after _
              | admins =>
                  exact (alike_runAccount Admin after _ stamp (seen .admins action rfl)).after _

theorem alike_run (start : k.Redacts a b) (opens : DatabaseConfig → Opening)
    (config : ServiceConfig) (stamp : Stamp) {command : Command}
    (seen : ∀ t action, command = .account t action → ¬ ChecksToken k action) :
    RanAlike k (run opens config stamp command a) (run opens config stamp command b) := by
  unfold run
  cases opens config.database with
  | nothing | elsewhere => exact ⟨rfl, rfl, start⟩
  | here => exact alike_runOn start config stamp seen

theorem alike_runLine (start : k.Redacts a b) (opens : DatabaseConfig → Opening) (env : Environment)
    (stamp : Stamp) {args : List String}
    (seen : ∀ t action, read args = .ok (.account t action) → ¬ ChecksToken k action) :
    k.Alike (runLine opens env stamp args a) (runLine opens env stamp args b) := by
  unfold runLine
  cases line : read args with
  | error stop => exact .intro _ start
  | ok command =>
      have ran := alike_run start opens (ServiceConfig.ofEnvironment env) stamp
        fun t action same => seen t action (line.trans (congrArg _ same))
      dsimp only
      rw [ran.result, ran.output]
      exact .intro _ ran.db

theorem alike_runLines (start : k.Redacts a b) (opens : DatabaseConfig → Opening) (env : Environment)
    (stamp : Stamp) {lines : List (List String)}
    (seen : ∀ args ∈ lines, ∀ t action, read args = .ok (.account t action) →
      ¬ ChecksToken k action) :
    k.Alike (runLines opens env stamp lines a) (runLines opens env stamp lines b) := by
  induction lines generalizing a b with
  | nil => exact .intro _ start
  | cons args rest ih =>
      have first := alike_runLine start opens env stamp (seen args List.mem_cons_self)
      simp only [runLines]
      generalize runLine opens env stamp args a = x at first
      generalize runLine opens env stamp args b = y at first
      cases first with
      | @intro outcome a' b' after =>
          have later := ih after fun args member => seen args (List.mem_cons_of_mem _ member)
          dsimp only
          generalize runLines opens env stamp rest a' = x at later
          generalize runLines opens env stamp rest b' = y at later
          cases later with
          | intro outcomes final => exact .intro _ final

end Command

open Command

/-- After preparations that differ in secrets alone, the same command lines have the same outcomes.
If refresh tokens are among the secrets, no line may ask for one. -/
theorem command_secrecy (k : Secrets) (backend : Backend) (markerIndexed : List Table)
    (applied : List String) (timing : Timing) {first second : List (Stamp × Step)}
    (alike : k.steps first = k.steps second) (opens : DatabaseConfig → Opening) (env : Environment)
    (stamp : Stamp) {lines : List (List String)}
    (unasked : k = .credentials → ∀ args ∈ lines, ∀ t value,
      read args ≠ .ok (.account t (.checkField "refresh_token" value))) :
    (runLines opens env stamp lines (prepared backend markerIndexed applied timing first)).1 =
      (runLines opens env stamp lines (prepared backend markerIndexed applied timing second)).1 := by
  have seen : ∀ args ∈ lines, ∀ t action, read args = .ok (.account t action) →
      ¬ ChecksToken k action := by
    intro args member t action line asked
    cases action with
    | get | list | delete => exact asked
    | checkField name value =>
        obtain ⟨secret, rfl⟩ := asked
        exact unasked secret args member t value line
  have outcomes (steps : List (Stamp × Step)) :
      (runLines opens env stamp lines (prepared backend markerIndexed applied timing steps)).1 =
        (runLines opens env stamp lines
          (prepared backend markerIndexed applied timing (k.steps steps))).1 := by
    have ran := alike_runLines (k.redacts_prepared backend markerIndexed applied timing steps) opens
      env stamp seen
    generalize runLines opens env stamp lines (prepared _ _ _ _ steps) = x at ran
    generalize runLines opens env stamp lines _ = y at ran
    cases ran with
    | intro given after => rfl
  rw [outcomes first, outcomes second, alike]

/-- Two users with other credentials: listing and looking them up tells nothing, and neither does a
check of their identifier. A check of the refresh token does. -/
theorem command_secrecy_of_two_users :
    let steps (password token : String) : List (Stamp × Step) :=
      [(⟨"", .epoch⟩, .user (.service (.create
        { id := "u", phoneNumber := "+1", password, refreshToken := token }))),
       (⟨"", .epoch⟩, .user (.service (.changePassword "+1" (password ++ "!")))),
       (⟨"", .epoch⟩, .user (.store (.updateRefreshToken "u" (token ++ "!"))))]
    let applied := Migration.all.map (·.name)
    let outcomes (lines : List (List String)) (password token : String) :=
      (runLines (fun _ => .here) (fun _ => none) ⟨"", .epoch⟩ lines
        (prepared .postgres [.users, .admins] applied ⟨0, 30000⟩ (steps password token))).1
    let lines := [["user", "list"], ["user", "get", "u"], ["user", "check-field", "id", "u"]]
    let ask := [["user", "check-field", "refresh_token", "s!"]]
    Secrets.credentials.steps (steps "p" "s") = Secrets.credentials.steps (steps "q" "t") ∧
      outcomes lines "p" "s" = outcomes lines "q" "t" ∧
      (outcomes lines "p" "s").map (·.exitCode) = [0, 0, 0] ∧
      outcomes ask "p" "s" ≠ outcomes ask "q" "t" := by
  intro steps applied outcomes lines ask
  have alike : Secrets.credentials.steps (steps "p" "s") =
      Secrets.credentials.steps (steps "q" "t") := rfl
  have unasked : ∀ args ∈ lines, ∀ t value,
      read args ≠ .ok (.account t (.checkField "refresh_token" value)) := by
    have plain : isHelp "u" = false ∧ isOption "u" = false ∧
        isHelp "id" = false ∧ isOption "id" = false := by decide +kernel
    have list : read ["user", "list"] = .ok (.account .users (.list ⟨⟨0, 0⟩, []⟩)) := rfl
    have get : read ["user", "get", "u"] = .ok (.account .users (.get "u")) := by
      simp [Command.read, readAccount, values, plain]
      rfl
    have check : read ["user", "check-field", "id", "u"] =
        .ok (.account .users (.checkField "id" "u")) := by
      simp [Command.read, readAccount, values, plain]
      rfl
    simp [lines, list, get, check]
  have same : outcomes lines "p" "s" = outcomes lines "q" "t" :=
    command_secrecy .credentials .postgres [.users, .admins] applied ⟨0, 30000⟩ alike
      (fun _ => .here) (fun _ => none) ⟨"", .epoch⟩ fun _ => unasked
  exact ⟨alike, same, by decide +kernel, by decide +kernel⟩

end AccountStore

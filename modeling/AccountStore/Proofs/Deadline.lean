import AccountStore.Proofs.Operation.Run
import AccountStore.Proofs.Operation.Parts

/-!
# Deadlines

A service call that is refused fails at once, whatever its deadline is. Any other waits before every
repository call. If all these waits end by the deadline, the call is the one without a deadline;
otherwise it times out, having made exactly the repository calls whose waits ended in time.
-/

namespace AccountStore
open Calendar

section Calls

variable {α : Type} [Account α]

namespace Service

def invalid? (account : α) : Option AccountError :=
  match Account.violations account with
  | [] => none
  | violations => some (.validation (.violations violations))

/-- The check that a creation begins with: whether somebody holds the contact details. -/
def check (stamp : Stamp) (account : α) : Program Bool :=
  Store.ifExists (Account.table α)
    (Account.predicate (Account.guard (Account.assignIdentity stamp account)))

/-- What a creation does after its check. -/
def insertUnless (stamp : Stamp) (account : α) (taken : Bool) : Program α :=
  if taken then .fail (.conflict (Account.subject α))
  else .pause (Store.createAndFetch (Account.assignIdentity stamp account))

end Service

namespace ServiceCall

/-- Why a call fails before its first repository call. -/
def refusal? (stamp : Stamp) : ServiceCall α → Option AccountError
  | create account => Service.invalid? (Account.assignIdentity stamp account)
  | update account => Service.invalid? (Account.touch stamp.now account)
  | checkField name _ =>
      match Field.ofName? (Account.table α) name with
      | some _ => none
      | none => some (.validation (.field (Account.table α) name))
  | _ => none

def check? (stamp : Stamp) : ServiceCall α → Option (Program Bool)
  | create account => some (Service.check stamp account)
  | _ => none

/-- How many repository calls a call makes without a deadline if it is not refused: a creation whose
check answers no makes two. -/
def callCount (stamp : Stamp) (call : ServiceCall α) (before : Script) : Nat :=
  match call.check? stamp with
  | none => 1
  | some check =>
      match (check.run Script.driver before).1 with
      | .ok false => 2
      | _ => 1

/-- The repository calls of a call without a deadline, each as the statements that it sends. -/
def repositoryCalls (stamp : Stamp) (call : ServiceCall α) (before : Script) :
    List (List Statement) :=
  ((call.program stamp).parts Script.driver before).later

/-- What the deadline makes of a call that waits so long before every repository call. -/
structure KeepsDeadline (limit wait : Nat) (stamp : Stamp) (call : ServiceCall α)
    (before : Script) (answer : Except AccountError (Answer α)) (after : Script) : Prop where
  refused (e : AccountError) (refusal : call.refusal? stamp = some e) :
    answer = .error e ∧ after = before
  count (accepted : call.refusal? stamp = none) :
    (call.repositoryCalls stamp before).length = call.callCount stamp before
  inTime (accepted : call.refusal? stamp = none)
      (inTime : call.callCount stamp before * wait ≤ limit) :
    (answer, after) = (call.program stamp).run Script.driver before ∧
      after.log = before.log ++ (call.repositoryCalls stamp before).flatten
  /-- The `i`-th repository call is made if `i` waits end by the deadline. -/
  late (accepted : call.refusal? stamp = none)
      (late : limit < call.callCount stamp before * wait) :
    answer = .error (.timedOut call.operation) ∧
      after.log = before.log ++ ((call.repositoryCalls stamp before).take (limit / wait)).flatten
  /-- A creation that times out has not inserted anything. -/
  creation (operation : String) (creates : (call.check? stamp).isSome)
      (timedOut : answer = .error (.timedOut operation)) :
    ∃ sent, after.log = before.log ++ sent ∧ ∀ s ∈ sent, s.isMutating = false

end ServiceCall
end Calls

/-- What the deadline makes of a step; store calls have none. -/
def Step.KeepsDeadline (limit wait : Nat) (stamp : Stamp) (before : Script)
    (answer : Except AccountError StepAnswer) (after : Script) : Step → Prop
  | user (.service call) =>
      ∃ own, answer = own.map .user ∧ call.KeepsDeadline limit wait stamp before own after
  | admin (.service call) =>
      ∃ own, answer = own.map .admin ∧ call.KeepsDeadline limit wait stamp before own after
  | _ => True

/-! ## One call -/

namespace Service

variable {α : Type} [Account α]

theorem invalid?_eq_none {a : α} : invalid? a = none ↔ Account.violations a = [] := by
  unfold invalid?
  cases Account.violations a <;> simp

theorem invalid?_of_violations {a : α} (broken : Account.violations a ≠ []) :
    invalid? a = some (.validation (.violations (Account.violations a))) := by
  unfold invalid?
  split
  next none => exact absurd none broken
  next => rfl

theorem checked_of_invalid? {a : α} {e : AccountError} (invalid : invalid? a = some e)
    (next : Program β) : checked a next = .fail e := by
  unfold invalid? at invalid
  unfold checked
  cases broken : Account.violations a with
  | nil => simp [broken] at invalid
  | cons first rest =>
      simp only [broken, Option.some.injEq] at invalid
      rw [← invalid]

theorem checked_of_valid {a : α} (valid : invalid? a = none) (next : Program β) :
    checked a next = next := by
  unfold invalid? at valid
  unfold checked
  cases broken : Account.violations a with
  | nil => rfl
  | cons first rest => simp [broken] at valid

end Service

namespace ServiceCall

variable {α : Type} [Account α] {stamp : Stamp} {call : ServiceCall α}

theorem program_of_refusal {e : AccountError} (refusal : call.refusal? stamp = some e) :
    call.program stamp = .fail e := by
  cases call with
  | create a => exact congrArg (Answer.account <$> ·) (Service.checked_of_invalid? refusal _)
  | update a => exact congrArg ((fun _ => Answer.done) <$> ·) (Service.checked_of_invalid? refusal _)
  | checkField name value =>
      simp only [refusal?] at refusal
      change Answer.truth <$> Service.checkField _ name value = _
      unfold Service.checkField
      cases found : Field.ofName? (Account.table α) name with
      | some field => simp [found] at refusal
      | none =>
          simp only [found, Option.some.injEq] at refusal
          rw [← refusal]
          rfl
  | get | list | delete | ifExists | changePassword | updateRefreshToken =>
      exact absurd refusal nofun

theorem accepted_of_ok {driver : Driver σ} {timing : Timing} {state : σ} {answer : Answer α}
    (ok : ((Call.service call).run driver timing stamp state).1 = .ok answer) :
    call.refusal? stamp = none := by
  refine Option.eq_none_iff_forall_not_mem.2 fun e refusal => ?_
  have failed : ((Call.service call).run driver timing stamp state).1 = .error e := by
    change ((call.program stamp).runWithin _ _ _ _ _).1 = _
    rw [program_of_refusal refusal]
    rfl
  exact absurd (ok.symm.trans failed) nofun

/-- A call without a check waits once, for all it does. -/
theorem program_eq_pause (accepted : call.refusal? stamp = none)
    (unchecked : call.check? stamp = none) :
    ∃ own : Program (Answer α), own.Untimed ∧ call.program stamp = .pause own := by
  cases call with
  | create a => exact absurd unchecked nofun
  | get id => exact ⟨_, StoreCall.untimed_program (.get id), rfl⟩
  | list page filters => exact ⟨_, StoreCall.untimed_program (.list page filters), rfl⟩
  | update a =>
      refine ⟨_, StoreCall.untimed_program (.update (Account.touch stamp.now a)), ?_⟩
      exact congrArg ((fun _ => Answer.done) <$> ·) (Service.checked_of_valid accepted _)
  | delete id => exact ⟨_, StoreCall.untimed_program (.delete id), rfl⟩
  | checkField name value =>
      simp only [refusal?] at accepted
      cases found : Field.ofName? (Account.table α) name with
      | some field =>
          refine ⟨_, StoreCall.untimed_program (.checkField field value), ?_⟩
          change Answer.truth <$> Service.checkField _ name value = _
          unfold Service.checkField
          rw [found]
          rfl
      | none => simp [found] at accepted
  | ifExists lookup => exact ⟨_, StoreCall.untimed_program (.ifExists lookup), rfl⟩
  | changePassword contact password =>
      exact ⟨_, StoreCall.untimed_program (.changePassword contact password), rfl⟩
  | updateRefreshToken id token =>
      exact ⟨_, StoreCall.untimed_program (.updateRefreshToken id token), rfl⟩

theorem program_create {a : α} (accepted : (create a).refusal? stamp = none) :
    (create a).program stamp =
      Answer.account <$> .pause ((Service.check stamp a).bind (Service.insertUnless stamp a)) :=
  congrArg (Answer.account <$> ·) (Service.checked_of_valid accepted _)

theorem eq_create_of_check? {check : Program Bool} (checks : call.check? stamp = some check) :
    ∃ a, call = create a ∧ check = Service.check stamp a := by
  cases call with
  | create a => exact ⟨a, rfl, (Option.some.inj checks).symm⟩
  | get | list | update | delete | checkField | ifExists | changePassword | updateRefreshToken =>
      exact absurd checks nofun

theorem first_parts (accepted : call.refusal? stamp = none) (before : Script) :
    ((call.program stamp).parts Script.driver before).first = [] := by
  cases checks : call.check? stamp with
  | none =>
      obtain ⟨own, _, eq⟩ := program_eq_pause accepted checks
      rw [eq]
      rfl
  | some check =>
      obtain ⟨a, rfl, _⟩ := eq_create_of_check? checks
      rw [program_create accepted, Program.parts_map]
      rfl

theorem length_later_create {a : α} (accepted : (create a).refusal? stamp = none)
    (driver : Driver σ) (state : σ) :
    (((create a).program stamp).parts driver state).later.length =
      match ((Service.check stamp a).run driver state).1 with
      | .ok false => 2
      | _ => 1 := by
  have once : ((Service.check stamp a).parts driver state).later = [] :=
    (Store.untimed_ifExists _ _).later_parts driver state
  rw [program_create accepted, Program.parts_map, Program.parts, Parts.pause_later,
    List.length_cons, Program.length_later_bind, once]
  generalize (Service.check stamp a).run driver state = checked
  obtain ⟨answer, after⟩ := checked
  cases answer with
  | error e => rfl
  | ok taken =>
      cases taken with
      | true => rfl
      | false =>
          have again := (Store.untimed_createAndFetch
            (Account.assignIdentity stamp a)).later_parts driver after
          simp [Service.insertUnless, Program.parts, again]

theorem length_repositoryCalls (accepted : call.refusal? stamp = none) (before : Script) :
    (call.repositoryCalls stamp before).length = call.callCount stamp before := by
  unfold repositoryCalls callCount
  cases checks : call.check? stamp with
  | none =>
      obtain ⟨own, untimed, eq⟩ := program_eq_pause accepted checks
      rw [eq, Program.parts, Parts.pause_later, untimed.later_parts]
      rfl
  | some check =>
      obtain ⟨a, rfl, rfl⟩ := eq_create_of_check? checks
      exact length_later_create accepted Script.driver before

theorem callCount_le (stamp : Stamp) (call : ServiceCall α) (before : Script) :
    call.callCount stamp before ≤ 2 := by
  unfold callCount
  split
  · decide
  · split <;> decide

/-- The first repository call of a creation only reads. -/
theorem repositoryCalls_create {a : α} (accepted : (create a).refusal? stamp = none)
    (before : Script) :
    ∃ read rest, (create a).repositoryCalls stamp before = read :: rest ∧
      ∀ s ∈ read, s.isMutating = false := by
  unfold repositoryCalls
  rw [program_create accepted, Program.parts_map, Program.parts, Parts.pause_later]
  refine ⟨_, _, rfl, ?_⟩
  obtain ⟨taken, ended, eq⟩ := Store.ifExists_eq (Account.table α)
    (Account.predicate (Account.guard (Account.assignIdentity stamp a)))
  have nothing (answer : Except DriverError (List ResultRow)) (after : Script) :
      (((Program.reply taken answer).bind (Service.insertUnless stamp a)).parts Script.driver
        after).first = [] := by
    cases answer with
    | error e => rfl
    | ok rows =>
        obtain ⟨r, done⟩ := ended rows
        rw [Program.reply, done]
        cases r with
        | error e => rfl
        | ok b => cases b <;> rfl
  rw [Service.check, eq]
  simp [Program.bind, Program.parts, nothing, Statement.isMutating, Statement.meaning]

theorem eq_error_of_map {f : β → γ} {x : Except ε β} {e : ε} (failed : x.map f = .error e) :
    x = .error e := by
  cases x with
  | ok b => exact absurd failed nofun
  | error d => exact congrArg _ (Except.error.inj failed)

theorem run_ne_timedOut (accepted : call.refusal? stamp = none) (driver : Driver σ) (state : σ)
    (operation : String) :
    ((call.program stamp).run driver state).1 ≠ .error (.timedOut operation) := by
  cases checks : call.check? stamp with
  | none =>
      obtain ⟨own, untimed, eq⟩ := program_eq_pause accepted checks
      rw [eq]
      exact untimed.run driver state operation
  | some check =>
      obtain ⟨a, rfl, rfl⟩ := eq_create_of_check? checks
      have checked : ((Service.check stamp a).run driver state).1 ≠ .error (.timedOut operation) :=
        (Store.untimed_ifExists _ _).run driver state operation
      rw [program_create accepted, Program.run_map, Program.run, Program.run_bind]
      generalize (Service.check stamp a).run driver state = x at checked
      obtain ⟨answer, after⟩ := x
      intro same
      have same := eq_error_of_map same
      cases answer with
      | error e => exact checked (congrArg _ (Except.error.inj same))
      | ok taken =>
          cases taken with
          | true => cases same
          | false => exact (Store.untimed_createAndFetch _).run driver after operation same

section Deadlines

variable {timing : Timing} {before : Script}

theorem runWithin_inTime (accepted : call.refusal? stamp = none)
    (inTime : call.callCount stamp before * timing.pause ≤ timing.limit) :
    (call.program stamp).runWithin Script.driver timing call.operation 0 before =
      (call.program stamp).run Script.driver before := by
  rw [← length_repositoryCalls accepted] at inTime
  exact Program.runWithin_inTime (Nat.le_trans (Nat.le_of_eq (Nat.zero_add _)) inTime)

theorem waits_lt (late : timing.limit < call.callCount stamp before * timing.pause) :
    timing.limit / timing.pause < call.callCount stamp before :=
  (Nat.div_lt_iff_lt_mul (Nat.pos_of_mul_pos_left (Nat.zero_lt_of_lt late))).2 late

theorem runWithin_late (accepted : call.refusal? stamp = none)
    (late : timing.limit < call.callCount stamp before * timing.pause) :
    let run := (call.program stamp).runWithin Script.driver timing call.operation 0 before
    run.1 = .error (.timedOut call.operation) ∧ run.2.log = before.log ++
      ((call.repositoryCalls stamp before).take (timing.limit / timing.pause)).flatten := by
  have waits : 0 < timing.pause := Nat.pos_of_mul_pos_left (Nat.zero_lt_of_lt late)
  have reached : 0 + timing.limit / timing.pause * timing.pause ≤ timing.limit := by
    rw [Nat.zero_add]
    exact Nat.div_mul_le_self _ _
  have passed : timing.limit < 0 + (timing.limit / timing.pause + 1) * timing.pause := by
    rw [Nat.zero_add]
    exact (Nat.div_lt_iff_lt_mul waits).1 (Nat.lt_succ_self _)
  have more : timing.limit / timing.pause < (call.repositoryCalls stamp before).length := by
    rw [length_repositoryCalls accepted]
    exact waits_lt late
  have sent : ((call.program stamp).parts Script.driver before).upTo
      (timing.limit / timing.pause) =
        ((call.repositoryCalls stamp before).take (timing.limit / timing.pause)).flatten := by
    rw [Parts.upTo, first_parts accepted]
    rfl
  rw [← sent]
  exact Program.runWithin_late (call.program stamp) before reached passed more

/-- At most one of the two waits of a creation is over when it times out, so the insertion is still
to come. -/
theorem reads_of_timedOut {a : α} {operation : String}
    (accepted : (create a).refusal? stamp = none)
    (timedOut : (((create a).program stamp).runWithin Script.driver timing
      (create a).operation 0 before).1 = .error (.timedOut operation)) :
    ∃ sent, (((create a).program stamp).runWithin Script.driver timing
        (create a).operation 0 before).2.log = before.log ++ sent ∧
      ∀ s ∈ sent, s.isMutating = false := by
  have late : timing.limit < (create a).callCount stamp before * timing.pause := by
    refine Nat.lt_of_not_le fun h => ?_
    rw [runWithin_inTime accepted h] at timedOut
    exact run_ne_timedOut accepted Script.driver before operation timedOut
  have waited : timing.limit / timing.pause ≤ 1 :=
    Nat.le_of_lt_succ (Nat.lt_of_lt_of_le (waits_lt late) (callCount_le stamp _ before))
  obtain ⟨read, rest, calls, reads⟩ := repositoryCalls_create accepted before
  refine ⟨_, (runWithin_late accepted late).2, fun s member => ?_⟩
  obtain ⟨part, taken, there⟩ := List.mem_flatten.1 member
  have first : part ∈ ((create a).repositoryCalls stamp before).take 1 :=
    List.take_subset_take_left _ waited taken
  rw [calls, List.take_succ_cons, List.take_zero, List.mem_singleton] at first
  rw [first] at there
  exact reads s there

/-- What a deadline makes of one service call. -/
theorem keepsDeadline (timing : Timing) (stamp : Stamp) (call : ServiceCall α)
    (before : Script) :
    let run := (call.program stamp).runWithin Script.driver timing call.operation 0 before
    call.KeepsDeadline timing.limit timing.pause stamp before run.1 run.2 := by
  intro run
  constructor
  case refused =>
    intro e refusal
    simp only [run, program_of_refusal refusal]
    exact ⟨rfl, rfl⟩
  case count => exact fun accepted => length_repositoryCalls accepted before
  case inTime =>
    intro accepted inTime
    have same : run = (call.program stamp).run Script.driver before :=
      runWithin_inTime accepted inTime
    refine ⟨same, ?_⟩
    rw [same, Program.log_run, Parts.all, first_parts accepted]
    rfl
  case late => exact runWithin_late
  case creation =>
    intro operation creates timedOut
    obtain ⟨check, checks⟩ := Option.isSome_iff_exists.1 creates
    obtain ⟨a, rfl, rfl⟩ := eq_create_of_check? checks
    cases accepted : (create a).refusal? stamp with
    | some e =>
        refine ⟨[], ?_, List.forall_mem_nil _⟩
        simp only [run, program_of_refusal accepted]
        exact (List.append_nil _).symm
    | none => exact reads_of_timedOut accepted timedOut

end Deadlines
end ServiceCall

/-! ## Steps that share a script -/

theorem Step.keepsDeadline (timing : Timing) (stamp : Stamp) (step : Step) (before : Script) :
    let run := step.run Script.driver timing stamp before
    step.KeepsDeadline timing.limit timing.pause stamp before run.1 run.2 := by
  cases step with
  | user call =>
      cases call with
      | store call => trivial
      | service call => exact ⟨_, rfl, call.keepsDeadline timing stamp before⟩
  | admin call =>
      cases call with
      | store call => trivial
      | service call => exact ⟨_, rfl, call.keepsDeadline timing stamp before⟩

theorem runSteps_getElem? (driverAt : Instant → Driver σ) (timing : Timing)
    {steps : List (Stamp × Step)} {i : Nat} {x : Stamp × Step} (found : steps[i]? = some x)
    (start : σ) :
    let before := (runSteps driverAt timing (steps.take i) start).2
    let run := x.2.run (driverAt x.1.now) timing x.1 before
    (runSteps driverAt timing steps start).1[i]? = some run.1 ∧
      (runSteps driverAt timing (steps.take (i + 1)) start).2 = run.2 := by
  induction steps generalizing i start with
  | nil => exact absurd found nofun
  | cons head rest ih =>
      cases i with
      | zero =>
          obtain rfl : head = x := Option.some.inj found
          exact ⟨rfl, rfl⟩
      | succ i => exact ih found _

/-- In a run of steps on one script the deadline acts on each service call as it should, if the wait
before a repository call is taken to be what it is, the delay but at most the longest pause. -/
theorem deadline_kept (timing : Timing) (steps : List (Stamp × Step)) (script : Script) (i : Nat)
    (stamp : Stamp) (step : Step) (found : steps[i]? = some (stamp, step)) :
    let reached n := (runSteps (fun _ => Script.driver) timing (steps.take n) script).2
    ∃ answer, (runSteps (fun _ => Script.driver) timing steps script).1[i]? = some answer ∧
      step.KeepsDeadline timing.limit timing.pause stamp (reached i) answer (reached (i + 1)) := by
  intro reached
  obtain ⟨answered, after⟩ := runSteps_getElem? (fun _ => Script.driver) timing found script
  refine ⟨_, answered, ?_⟩
  change step.KeepsDeadline timing.limit timing.pause stamp (reached i) _
    (runSteps (fun _ => Script.driver) timing (steps.take (i + 1)) script).2
  rw [after]
  exact step.keepsDeadline timing stamp (reached i)

/-- The deadline falls between the check and the insertion of a creation; the step after it is in
time, and takes the answer that was prepared for the insertion. -/
theorem deadline_kept_between_check_and_insertion :
    let timing : Timing := ⟨2, 3⟩
    let steps : List (Stamp × Step) :=
      [(⟨"a", .epoch⟩, .user (.service (.create { phoneNumber := "+1" }))),
       (⟨"", .epoch⟩, .user (.service (.ifExists ⟨"+1"⟩)))]
    let script : Script := ⟨[], [.ok [], .ok []], []⟩
    let reached n := (runSteps (fun _ => Script.driver) timing (steps.take n) script).2
    (runSteps (fun _ => Script.driver) timing steps script).1 =
        [.error (.timedOut "userRepo.Create"), .ok (.user (.truth false))] ∧
      (reached 1).log = [.found .users (.phone "+1")] ∧
      ∃ stamp step, steps[0]? = some (stamp, step) ∧
        ∃ answer, (runSteps (fun _ => Script.driver) timing steps script).1[0]? = some answer ∧
          step.KeepsDeadline timing.limit timing.pause stamp (reached 0) answer (reached 1) := by
  intro timing steps script reached
  exact ⟨rfl, rfl, _, _, rfl, deadline_kept timing steps script 0 _ _ rfl⟩

/-- Taking the wait to be the delay fails beyond the longest pause: a delay of one millisecond more
ends by a deadline of thirty years. -/
theorem delay_beyond_longestPause :
    ¬ ∀ (timing : Timing) (steps : List (Stamp × Step)) (script : Script) (i : Nat) (stamp : Stamp)
      (step : Step), steps[i]? = some (stamp, step) →
      let reached n := (runSteps (fun _ => Script.driver) timing (steps.take n) script).2
      ∃ answer, (runSteps (fun _ => Script.driver) timing steps script).1[i]? = some answer ∧
        step.KeepsDeadline timing.limit timing.delay stamp (reached i) answer (reached (i + 1)) := by
  intro kept
  obtain ⟨answer, answered, own, eq, law⟩ := kept ⟨946080000001, 946080000000⟩
    [(⟨"", .epoch⟩, .user (.service (.ifExists ⟨"1"⟩)))]
    ⟨[], [.ok [[("found", .bool (some true))]]], []⟩ 0 _ _ rfl
  have found : answer = .ok (.user (.truth true)) := (Option.some.inj answered).symm
  have late : answer = .error (.timedOut "userRepo.IfExists") := by
    rw [eq, (law.late rfl (by decide)).1]
    rfl
  exact absurd (found.symm.trans late) nofun

end AccountStore

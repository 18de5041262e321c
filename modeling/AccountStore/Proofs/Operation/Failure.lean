import AccountStore.Proofs.Operation.Run

/-!
# The errors that programs end with

`Program.FailsWith allowed` bounds the errors that a program may end with, whatever it is answered.
Under a deadline a program also ends with the time that ran out, and with nothing else
(`FailsWith.runWithin`). A program is `Direct` if it makes no pause either; all operations of the
store are (`StoreCall.direct_program`).
-/

namespace AccountStore
namespace Program

/-- Whatever the database answers, the program fails with allowed errors only. -/
def FailsWith (allowed : AccountError → Prop) : Program α → Prop
  | .done r => ∀ e, r = .error e → allowed e
  | .execute _ next => ∀ answer, (next answer).FailsWith allowed
  | .query _ next => ∀ answer, (next answer).FailsWith allowed
  | .pause next => next.FailsWith allowed

/-- Nor does the program make a pause. -/
def Direct (allowed : AccountError → Prop) : Program α → Prop
  | .done r => ∀ e, r = .error e → allowed e
  | .execute _ next => ∀ answer, (next answer).Direct allowed
  | .query _ next => ∀ answer, (next answer).Direct allowed
  | .pause _ => False

variable {allowed : AccountError → Prop} {p : Program α}

namespace FailsWith

theorem pure (a : α) : (Program.pure a).FailsWith allowed := nofun

theorem fail {e : AccountError} (is : allowed e) : (Program.fail e : Program α).FailsWith allowed :=
  fun _ same => Except.error.inj same ▸ is

theorem bind {f : α → Program β} (fails : p.FailsWith allowed)
    (next : ∀ a, (f a).FailsWith allowed) : (p.bind f).FailsWith allowed := by
  induction p with
  | done r =>
      cases r with
      | ok a => exact next a
      | error e => exact fail (fails e rfl)
  | execute s more ih | query s more ih => exact fun answer => ih answer (fails answer)
  | pause more ih => exact ih fails

theorem map (fails : p.FailsWith allowed) (f : α → β) : (f <$> p).FailsWith allowed :=
  fails.bind fun a => pure (f a)

theorem runWithin (fails : p.FailsWith allowed) (driver : Driver σ) {operation : String}
    (late : allowed (.timedOut operation)) (timing : Timing) (elapsed : Nat) (state : σ)
    {e : AccountError}
    (failed : (p.runWithin driver timing operation elapsed state).1 = .error e) : allowed e := by
  induction p generalizing elapsed state with
  | done r => exact fails e failed
  | execute s next ih | query s next ih => exact ih _ (fails _) elapsed _ failed
  | pause next ih =>
      simp only [Program.runWithin] at failed
      split at failed
      · exact Except.error.inj failed ▸ late
      · exact ih fails _ state failed

end FailsWith

namespace Direct

theorem pure (a : α) : (Program.pure a).Direct allowed := nofun

theorem fail {e : AccountError} (is : allowed e) : (Program.fail e : Program α).Direct allowed :=
  fun _ same => Except.error.inj same ▸ is

theorem bind {f : α → Program β} (direct : p.Direct allowed) (next : ∀ a, (f a).Direct allowed) :
    (p.bind f).Direct allowed := by
  induction p with
  | done r =>
      cases r with
      | ok a => exact next a
      | error e => exact fail (direct e rfl)
  | execute s more ih | query s more ih => exact fun answer => ih answer (direct answer)
  | pause more ih => exact direct.elim

theorem map (direct : p.Direct allowed) (f : α → β) : (f <$> p).Direct allowed :=
  direct.bind fun a => pure (f a)

theorem ofOption {e : AccountError} (absent : allowed e) (x : Option α) :
    (Program.ofOption e x).Direct allowed := by
  cases x with
  | some a => exact pure a
  | none => exact fail absent

theorem reply (reported : ∀ e, allowed (.ofDriver e)) {next : β → Program α}
    (direct : ∀ b, (next b).Direct allowed) (answer : Except DriverError β) :
    (Program.reply next answer).Direct allowed := by
  cases answer with
  | ok b => exact direct b
  | error e => exact fail (reported e)

theorem failsWith {wider : AccountError → Prop} (direct : p.Direct allowed)
    (weaker : ∀ e, allowed e → wider e) : p.FailsWith wider := by
  induction p with
  | done r => exact fun e failed => weaker e (direct e failed)
  | execute s next ih | query s next ih => exact fun answer => ih answer (direct answer)
  | pause next ih => exact direct.elim

end Direct
end Program

/-! ## The errors of the store -/

namespace AccountError

/-- What an operation of the store may end with if it fails. -/
inductive OfStore : AccountError → Prop
  | notFound : OfStore .notFound
  | alreadyDeleted : OfStore .alreadyDeleted
  | conflict : OfStore (.conflict "Record")
  | database (cause : DriverError) : OfStore (.database cause)
  | internal (cause : String) : OfStore (.internal cause)

theorem ofStore_ofDriver (e : DriverError) : (ofDriver e).OfStore := by
  cases e with
  | failure kind text =>
      cases kind with
      | recordNotFound => exact .notFound
      | _ => exact .database _
  | violated broken =>
      cases broken with
      | unique text => exact .conflict
      | foreignKey text => exact .database _
  | undecodable => exact .database _

/-- Not the refusal of a statement before it is sent. -/
def WellBuilt (e : AccountError) : Prop :=
  ∀ cause, e ≠ malformed cause

theorem WellBuilt.code_ne {e : AccountError} (built : e.WellBuilt) : e.code ≠ "BUILD_ERROR" := by
  cases e with
  | malformed cause => exact absurd rfl (built cause)
  | _ => simp [code]

theorem OfStore.wellBuilt {e : AccountError} (store : e.OfStore) : e.WellBuilt := by
  cases store <;> exact nofun

end AccountError

section Calls

variable {α : Type} [Account α]

open AccountError Program

theorem Store.direct_ofRow (row : ResultRow) : (ofRow row : Program α).Direct OfStore :=
  .ofOption (.database _) _

theorem Store.direct_modify (t : Table) (id : String) (s : Statement) :
    (modify t id s).Direct OfStore := by
  rw [modify_eq]
  refine Direct.reply ofStore_ofDriver fun n => ?_
  split
  · refine Direct.reply ofStore_ofDriver fun rows => .fail ?_
    unfold missing
    split
    · exact .notFound
    · split
      · exact .alreadyDeleted
      · exact .internal _
  · exact .pure ()

theorem Store.direct_ifExists (t : Table) (predicate : ContactPredicate) :
    (ifExists t predicate).Direct OfStore := by
  rw [ifExists_eq_found]
  exact Direct.reply ofStore_ofDriver fun _ => .ofOption (.database _) _

theorem Store.direct_checkField (t : Table) (field : Field t) (value : String) :
    (checkField t field value).Direct OfStore := by
  rw [checkField_eq_counted]
  exact Direct.reply ofStore_ofDriver fun _ => .ofOption (.database _) _

theorem Store.direct_createAndFetch (a : α) : (createAndFetch a).Direct OfStore := by
  rw [createAndFetch_eq]
  exact Direct.reply ofStore_ofDriver fun _ =>
    (Direct.ofOption (.internal _) _).bind direct_ofRow

theorem Store.direct_update (a : α) : (update a).Direct OfStore := by
  rw [update_eq]
  exact direct_modify _ _ _

theorem StoreCall.direct_program (call : StoreCall α) : call.program.Direct OfStore := by
  cases call with
  | create a =>
      refine Direct.map ?_ _
      rw [Store.create_eq]
      exact Direct.reply ofStore_ofDriver fun _ => .pure _
  | createAndFetch a => exact (Store.direct_createAndFetch a).map _
  | get id =>
      refine Direct.map ?_ _
      rw [Store.get_eq]
      exact Direct.reply ofStore_ofDriver fun _ =>
        (Direct.ofOption .notFound _).bind Store.direct_ofRow
  | list page filters =>
      refine Direct.map ?_ _
      rw [Store.list_eq]
      exact Direct.reply ofStore_ofDriver fun _ => .ofOption (.database _) _
  | update a => exact (Store.direct_update a).map _
  | delete id => exact (Store.direct_modify _ _ _).map _
  | checkField field value => exact (Store.direct_checkField _ field value).map _
  | ifExists lookup => exact (Store.direct_ifExists _ _).map _
  | changePassword contact password =>
      refine Direct.map ?_ _
      rw [Store.changePassword_eq]
      exact Direct.reply ofStore_ofDriver fun _ => .pure _
  | updateRefreshToken id token =>
      refine Direct.map ?_ _
      rw [Store.updateRefreshToken_eq]
      exact Direct.reply ofStore_ofDriver fun _ => .pure _

/-! ## Statements that are built -/

theorem StoreCall.wellBuilt_program (call : StoreCall α) : call.program.FailsWith WellBuilt :=
  call.direct_program.failsWith fun _ => OfStore.wellBuilt

theorem Service.wellBuilt_checked (a : α) {next : Program β} (passed : next.FailsWith WellBuilt) :
    (checked a next).FailsWith WellBuilt := by
  rcases checked_cases a next with eq | ⟨r, eq⟩ <;> rw [eq]
  · exact passed
  · exact .fail nofun

theorem Service.wellBuilt_create (stamp : Stamp) (a : α) :
    (create stamp a).FailsWith WellBuilt := by
  have checks := (Store.direct_ifExists (Account.table α)
    (Account.predicate (Account.guard (Account.assignIdentity stamp a)))).failsWith
      fun _ => OfStore.wellBuilt
  refine wellBuilt_checked _ (checks.bind fun taken => ?_)
  cases taken with
  | true => exact .fail nofun
  | false => exact (Store.direct_createAndFetch _).failsWith fun _ => OfStore.wellBuilt

theorem Service.wellBuilt_checkField (t : Table) (name value : String) :
    (checkField t name value).FailsWith WellBuilt := by
  unfold checkField
  split
  next field _ =>
    exact (Store.direct_checkField t field value).failsWith fun _ => OfStore.wellBuilt
  · exact .fail nofun

theorem ServiceCall.wellBuilt_program (stamp : Stamp) (call : ServiceCall α) :
    (call.program stamp).FailsWith WellBuilt := by
  cases call with
  | create a => exact (Service.wellBuilt_create stamp a).map _
  | update a =>
      refine FailsWith.map (p := Service.update stamp a) ?_ _
      exact Service.wellBuilt_checked _
        ((Store.direct_update (Account.touch stamp.now a)).failsWith fun _ => OfStore.wellBuilt)
  | checkField name value => exact (Service.wellBuilt_checkField _ name value).map _
  | get id => exact (StoreCall.get (α := α) id).wellBuilt_program
  | list page filters => exact (StoreCall.list (α := α) page filters).wellBuilt_program
  | delete id => exact (StoreCall.delete (α := α) id).wellBuilt_program
  | ifExists lookup => exact (StoreCall.ifExists (α := α) lookup).wellBuilt_program
  | changePassword contact password =>
      exact (StoreCall.changePassword (α := α) contact password).wellBuilt_program
  | updateRefreshToken id token =>
      exact (StoreCall.updateRefreshToken (α := α) id token).wellBuilt_program

/-- Every statement of a call is built, whatever it is called with and whatever is answered. -/
theorem Call.wellBuilt (driver : Driver σ) (timing : Timing) (stamp : Stamp) (call : Call α)
    (state : σ) {e : AccountError} (failed : (call.run driver timing stamp state).1 = .error e) :
    e.WellBuilt := by
  rw [run_eq] at failed
  refine FailsWith.runWithin ?_ driver nofun _ 0 state failed
  cases call with
  | store call => exact call.wellBuilt_program
  | service call => exact call.wellBuilt_program stamp

end Calls
end AccountStore

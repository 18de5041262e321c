import AccountStore.Proofs.Operation.Comparison

/-!
# Driver errors are opaque

An error keeps what the driver said, for the log. Of that a caller is shown whether no record was
found and whether a value was taken; whatever else a driver says changes neither what is shown of
the answers of a run nor the statements sent.
-/

namespace AccountStore

/-! ## What is shown of an error -/

/-- What a caller is shown of an error. -/
structure AccountError.Shown where
  code : String
  message : String
  detail? : Option String
  userMessage : String
  isMissing : Bool
  isRetryable : Bool
deriving DecidableEq

def AccountError.shown (e : AccountError) : Shown :=
  ⟨e.code, e.message, e.detail?, e.userMessage, e.isMissing, e.isRetryable⟩

theorem AccountError.shown_database (cause other : DriverError) :
    (database cause).shown = (database other).shown := rfl

namespace DriverError

/-- Neither that no record was found nor that a value is taken. -/
def Hidden (e : DriverError) : Prop :=
  (∀ text, e ≠ .failure .recordNotFound text) ∧ ∀ text, e ≠ .violated (.unique text)

/-- Errors that callers cannot tell apart. -/
inductive Alike : DriverError → DriverError → Prop
  | notFound (s t : String) : Alike (.failure .recordNotFound s) (.failure .recordNotFound t)
  | taken (s t : String) : Alike (.violated (.unique s)) (.violated (.unique t))
  | hidden {e d : DriverError} (left : e.Hidden) (right : d.Hidden) : Alike e d

theorem Hidden.ofDriver {e : DriverError} (hidden : e.Hidden) :
    AccountError.ofDriver e = .database e := by
  cases e with
  | failure kind text =>
      cases kind with
      | recordNotFound => exact absurd rfl (hidden.1 text)
      | _ => rfl
  | violated broken =>
      cases broken with
      | unique text => exact absurd rfl (hidden.2 text)
      | foreignKey text => rfl
  | undecodable => rfl

theorem Alike.refl (e : DriverError) : e.Alike e := by
  by_cases found : ∃ text, e = .failure .recordNotFound text
  · obtain ⟨text, rfl⟩ := found
    exact .notFound text text
  by_cases taken : ∃ text, e = .violated (.unique text)
  · obtain ⟨text, rfl⟩ := taken
    exact .taken text text
  have hidden : e.Hidden := ⟨not_exists.1 found, not_exists.1 taken⟩
  exact .hidden hidden hidden

theorem Alike.shown_ofDriver {e d : DriverError} (alike : e.Alike d) :
    (AccountError.ofDriver e).shown = (AccountError.ofDriver d).shown := by
  cases alike with
  | notFound | taken => rfl
  | hidden left right =>
      rw [left.ofDriver, right.ofDriver]
      exact AccountError.shown_database e d

end DriverError

/-! ## Runs -/

/-- The same statements and rows; errors may differ in what callers are not shown. -/
def Matching.shown : Matching where
  sent := Eq
  received := Eq
  failed := DriverError.Alike
  told e d := e.shown = d.shown
  told_refl _ := rfl
  told_ofDriver alike := alike.shown_ofDriver

theorem Step.together_self (x : Stamp × Step) : Step.Together .shown Eq x x where
  operation := rfl
  timing _ := rfl
  program := (x.2.makes_program x.1).together (fun _ _ => rfl) fun _ _ same => same

/-- Runs of the same steps on scripts that differ in no more than their errors, and there only in
what callers cannot tell, show callers the same answers and send the same statements. -/
theorem driver_errors_opaque {a b : Script} (timing : Timing) (steps : List (Stamp × Step))
    (scripts : a.Alike DriverError.Alike Eq b) :
    let first := runSteps (fun _ => Script.driver) timing steps a
    let second := runSteps (fun _ => Script.driver) timing steps b
    first.1.map (·.mapError AccountError.shown) = second.1.map (·.mapError AccountError.shown) ∧
      first.2.log = second.2.log := by
  intro first second
  have drivers : Driver.Matches .shown (Script.Alike DriverError.Alike Eq) Script.driver
      Script.driver := Script.driver_matches DriverError.Alike.refl rfl
  obtain ⟨answers, final⟩ := runSteps_together timing
    (List.forall₂_same.2 fun x (_ : x ∈ steps) => Step.together_self x) drivers scripts
  constructor
  · rw [← List.forall₂_eq_eq_eq, List.forall₂_map_left_iff, List.forall₂_map_right_iff]
    exact answers.imp fun _ _ same => same.mapError_eq
  · exact List.forall₂_eq_eq_eq ▸ final.log

/-- A failed update, a failed look-up of a marker and a look-up that finds nothing: the errors differ
in what the driver said, and callers are shown the same. -/
theorem driver_errors_opaque_on_failures :
    let script (k l : FailureKind) (text : String) : Script :=
      ⟨[.error (.failure k text), .ok 0],
        [.error (.failure l text), .error (.failure .recordNotFound text)], []⟩
    let a := script .connection .query "no route to 10.0.0.7"
    let b := script .execution .json "password authentication failed"
    let steps : List (Stamp × Step) :=
      [(⟨"", .epoch⟩, .user (.store (.update { id := "a" }))),
       (⟨"", .epoch⟩, .user (.store (.update { id := "a" }))),
       (⟨"", .epoch⟩, .admin (.service (.get "a")))]
    let first := runSteps (fun _ => Script.driver) ⟨0, 30000⟩ steps a
    let second := runSteps (fun _ => Script.driver) ⟨0, 30000⟩ steps b
    a.Alike DriverError.Alike Eq b ∧
      first.1 = [.error (.database (.failure .connection "no route to 10.0.0.7")),
        .error (.database (.failure .query "no route to 10.0.0.7")), .error .notFound] ∧
      first.1 ≠ second.1 ∧
      first.1.map (·.mapError AccountError.shown) = second.1.map (·.mapError AccountError.shown) ∧
      first.2.log = second.2.log := by
  intro script a b steps first second
  have hidden : ∀ k ≠ FailureKind.recordNotFound, ∀ text, (DriverError.failure k text).Hidden :=
    fun k other text => ⟨fun _ same => other (DriverError.failure.inj same).1, nofun⟩
  have alike : a.Alike DriverError.Alike Eq b := by
    refine ⟨.cons (.error (.hidden (hidden _ (by decide) _) (hidden _ (by decide) _)))
      (.cons (.ok rfl) .nil), .cons (.error ?_) (.cons (.error (.notFound _ _)) .nil), .nil⟩
    exact .hidden (hidden _ (by decide) _) (hidden _ (by decide) _)
  have answers : first.1 = [.error (.database (.failure .connection "no route to 10.0.0.7")),
      .error (.database (.failure .query "no route to 10.0.0.7")), .error .notFound] := rfl
  have others : second.1 =
      [.error (.database (.failure .execution "password authentication failed")),
        .error (.database (.failure .json "password authentication failed")), .error .notFound] := rfl
  exact ⟨alike, answers, by simp [answers, others], driver_errors_opaque ⟨0, 30000⟩ steps alike⟩

end AccountStore

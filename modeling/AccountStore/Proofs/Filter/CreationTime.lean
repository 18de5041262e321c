import AccountStore.Account.Admin
import AccountStore.Error
import AccountStore.Proofs.Calendar.Written
import AccountStore.Query.Filter

/-!
# Creation times in filters

The value of a `created_at` filter is an RFC 3339 date-time or, without a zone, a date and time in
UTC. Every form of an instant selects that instant, among them the one that accounts carry in their
JSON form (`SelectsInstant`). What one of the two readers accepts the other refuses, because only
RFC 3339 has a zone after the seconds; so it does not matter which is tried first (`ReadsOneWay`).
-/

namespace AccountStore
open Calendar Text

namespace Calendar

/-- Something must be left for the zone after the seconds. -/
theorem nonempty_of_readZone {cs rest tail : List Char} {fraction : Nat} {offset : Int}
    (read : readFraction cs = some (fraction, rest))
    (zoned : readZone (expect ':') rest = some (offset, tail)) : cs.isEmpty = false := by
  cases cs with
  | nil =>
      cases read
      cases zoned
  | cons c cs => rfl

/-- A date-time with a zone is none without. -/
theorem readLegacy?_of_strict {cs : List Char} {t : Instant} (strict : readStrict? cs = some t) :
    readLegacy? cs = none := by
  rw [readStrict?] at strict
  obtain ⟨⟨year, c1⟩, readYear, strict⟩ := Option.bind_eq_some_iff.1 strict
  obtain ⟨c2, dash, strict⟩ := Option.bind_eq_some_iff.1 strict
  obtain ⟨⟨month, c3⟩, readMonth, strict⟩ := Option.bind_eq_some_iff.1 strict
  obtain ⟨c4, dash', strict⟩ := Option.bind_eq_some_iff.1 strict
  obtain ⟨⟨day, c5⟩, readDay, strict⟩ := Option.bind_eq_some_iff.1 strict
  obtain ⟨c6, divided, strict⟩ := Option.bind_eq_some_iff.1 strict
  obtain ⟨⟨hour, c7⟩, readHour, strict⟩ := Option.bind_eq_some_iff.1 strict
  obtain ⟨c8, colon, strict⟩ := Option.bind_eq_some_iff.1 strict
  obtain ⟨⟨minute, c9⟩, readMinute, strict⟩ := Option.bind_eq_some_iff.1 strict
  obtain ⟨c10, colon', strict⟩ := Option.bind_eq_some_iff.1 strict
  obtain ⟨⟨second, c11⟩, readSecond, strict⟩ := Option.bind_eq_some_iff.1 strict
  obtain ⟨⟨fraction, c12⟩, readFraction, strict⟩ := Option.bind_eq_some_iff.1 strict
  obtain ⟨⟨offset, c13⟩, readZone, -⟩ := Option.bind_eq_some_iff.1 strict
  have more := nonempty_of_readZone readFraction readZone
  refine (bind_of_some (readYear_of_takeNumber readYear) _).trans ?_
  refine (bind_of_some dash _).trans ?_
  refine (bind_of_some (readPart_of_takeNumber readMonth) _).trans ?_
  refine (bind_of_some dash' _).trans ?_
  refine (bind_of_some (readPart_of_takeNumber readDay) _).trans ?_
  have clock : readPart c5 = none ∨ readPart c5 = some (hour, c7) := by
    unfold separator at divided
    split at divided
    · exact .inl rfl
    · exact .inl rfl
    · cases divided
      exact .inr ((readPart_space c6).trans (readPart_of_takeNumber readHour))
    · cases divided
  rcases clock with refused | clock
  · change (readPart c5 >>= _) = none
    rw [refused]
    rfl
  · refine (bind_of_some clock _).trans ?_
    refine (bind_of_some colon _).trans ?_
    refine (bind_of_some (readPart_of_takeNumber readMinute) _).trans ?_
    refine (bind_of_some colon' _).trans ?_
    refine (bind_of_some (readPart_of_takeNumber readSecond) _).trans ?_
    simp [more]

theorem readers_apart (cs : List Char) : readStrict? cs = none ∨ readLegacy? cs = none := by
  cases strict : readStrict? cs with
  | none => exact .inl rfl
  | some t => exact .inr (readLegacy?_of_strict strict)

end Calendar

/-- The member of an object is this text. -/
def Json.Carries (j : Json) (key text : String) : Prop :=
  ∃ members, j = .object members ∧ Json.member? members key = some (.string text)

namespace Filter

/-- The values that select the accounts created at an instant. -/
structure SelectsInstant (t : Instant) : Prop where
  /-- Every form whose year has four digits does. -/
  form (form : Form) : Spells form.places t.fraction → (t.shown form.zone.offset).date.InYears →
    ofPair "created_at" (form.write t) = .ok (.byCreatedAt t)
  user (u : User) : u.createdAt = t → t.date.InYears →
    ∃ text, u.toJson.Carries "created_at" text ∧ ofPair "created_at" text = .ok (.byCreatedAt t)
  admin (a : Admin) : a.createdAt = t → t.date.InYears →
    ∃ text, a.toJson.Carries "created_at" text ∧ ofPair "created_at" text = .ok (.byCreatedAt t)
  /-- The date and time without a zone do, if no fraction is lost. -/
  legacy : t.fraction = 0 →
    ofPair "created_at" (String.ofList (Instant.dateText t.date ++ ' ' :: t.timeText)) =
      .ok (.byCreatedAt t)

/-- What a value is taken for does not depend on which reader is tried first. -/
structure ReadsOneWay (value : String) : Prop where
  apart : readStrict? value.toList = none ∨ readLegacy? value.toList = none
  swapped : readFilterTime? value =
    (readLegacy? value.toList).orElse fun _ => readStrict? value.toList
  accepted (filter : Filter) : ofPair "created_at" value = .ok filter ↔
    ∃ t, filter = .byCreatedAt t ∧
      (readStrict? value.toList = some t ∨ readLegacy? value.toList = some t)
  refused : readStrict? value.toList = none → readLegacy? value.toList = none →
    ofPair "created_at" value = .error (.createdAt value)
  quoted : (AccountError.validation (.createdAt value)).code = "VALIDATION_ERROR" ∧
    (AccountError.validation (.createdAt value)).message =
      "invalid created_at value '" ++ value ++ "'"

theorem ofPair_of_strict {value : String} {t : Instant} (read : readStrict? value.toList = some t) :
    ofPair "created_at" value = .ok (.byCreatedAt t) := by
  simp [ofPair, readFilterTime?, read]

theorem ofPair_of_legacy {value : String} {t : Instant} (read : readLegacy? value.toList = some t) :
    ofPair "created_at" value = .ok (.byCreatedAt t) := by
  have strict : readStrict? value.toList = none := by
    rcases readers_apart value.toList with strict | legacy
    · exact strict
    · rw [legacy] at read
      cases read
  simp [ofPair, readFilterTime?, strict, read]

theorem ofPair_text {t : Instant} (years : t.date.InYears) :
    ofPair "created_at" t.text = .ok (.byCreatedAt t) := by
  obtain ⟨places, spelled, shape⟩ := exists_write_eq t
  rw [shape]
  exact ofPair_of_strict (readStrict?_write spelled (t.shown_date_zero ▸ years))

theorem selectsInstant (t : Instant) : SelectsInstant t where
  form _ spelled years := ofPair_of_strict (readStrict?_write spelled years)
  user u created years := ⟨t.text, ⟨_, rfl, by simp [Json.member?, created]⟩, ofPair_text years⟩
  admin a created years := ⟨t.text, ⟨_, rfl, by simp [Json.member?, created]⟩, ofPair_text years⟩
  legacy whole := by
    refine ofPair_of_legacy ?_
    rw [String.toList_ofList, timeText_eq, ← t.shown_date_zero,
      readLegacy?_text (t.shown_proper 0) whole]
    exact Instant.instant?_shown rfl (by simpa using t.supported)

theorem readsOneWay (value : String) : ReadsOneWay value where
  apart := readers_apart value.toList
  swapped := by
    rw [readFilterTime?]
    rcases readers_apart value.toList with none | none <;> rw [none] <;> simp
  accepted filter := by
    constructor
    · intro made
      cases strict : readStrict? value.toList with
      | some t =>
          rw [ofPair_of_strict strict] at made
          cases made
          exact ⟨t, rfl, .inl rfl⟩
      | none =>
          cases legacy : readLegacy? value.toList with
          | some t =>
              rw [ofPair_of_legacy legacy] at made
              cases made
              exact ⟨t, rfl, .inr rfl⟩
          | none => simp [ofPair, readFilterTime?, strict, legacy] at made
    · rintro ⟨t, rfl, strict | legacy⟩
      · exact ofPair_of_strict strict
      · exact ofPair_of_legacy legacy
  refused strict legacy := by simp [ofPair, readFilterTime?, strict, legacy]
  quoted := ⟨rfl, rfl⟩

/-- Written creation times select the instants they were written for, and no value has two readings.
-/
theorem creation_times (t : Instant) (value : String) : SelectsInstant t ∧ ReadsOneWay value :=
  ⟨selectsInstant t, readsOneWay value⟩

/-- A leap second, written in a zone behind UTC and without a zone, and a value that is no time. -/
theorem creation_times_of_leap_second :
    let t : Instant := ⟨662687999, nanosPerSecond, by decide, by decide⟩
    ofPair "created_at" "1990-12-31 15:59:60.000-08:00" = .ok (.byCreatedAt t) ∧
      ofPair "created_at" "1990-12-31 23:59:60" = .ok (.byCreatedAt t) ∧
      ofPair "created_at" "1990-12-31T23:59:60" = .error (.createdAt "1990-12-31T23:59:60") := by
  intro t
  obtain ⟨selects, -⟩ := creation_times t ""
  obtain ⟨-, oneWay⟩ := creation_times t "1990-12-31T23:59:60"
  have form := selects.form ⟨.space, "000".toList, .behind 8 0⟩ (by decide +kernel)
    (by decide +kernel)
  have legacy := selects.legacy (by decide)
  have formText : (⟨.space, "000".toList, .behind 8 0⟩ : Form).write t =
      "1990-12-31 15:59:60.000-08:00" := by decide +kernel
  have legacyText : String.ofList (Instant.dateText t.date ++ ' ' :: t.timeText) =
      "1990-12-31 23:59:60" := by decide +kernel
  rw [formText] at form
  rw [legacyText] at legacy
  exact ⟨form, legacy, oneWay.refused (by decide +kernel) (by decide +kernel)⟩

end Filter
end AccountStore

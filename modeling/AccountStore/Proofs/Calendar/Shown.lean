import AccountStore.Calendar.Reader

/-!
# What clocks show

`Instant.shown` is the local time of an instant. Where clocks are whole minutes from UTC, the local
time and the distance give the instant back, leap seconds included (`instant?_shown`); local times
of the years 0 to 9999 are all in the supported range (`supported_of_inYears`).
-/

namespace AccountStore.Calendar

/-- The date has a year that four digits can write. -/
def Date.InYears (date : Date) : Prop :=
  0 ≤ date.year ∧ date.year ≤ 9999

instance (date : Date) : Decidable date.InYears :=
  inferInstanceAs (Decidable (_ ∧ _))

/-- The date exists and the clock can show the time. -/
structure Local.Proper (l : Local) : Prop where
  valid : l.date.Valid
  hour : l.hour < 24
  minute : l.minute < 60
  second : l.second ≤ 60

theorem inYears_ofDays {days : Int} (years : (Date.ofDays days).InYears) :
    -719528 ≤ days ∧ days ≤ 2932897 := by
  obtain ⟨first, within⟩ := yearOfDay_spec (days + epochDays)
  have short : (Date.yearOfDay (days + epochDays)).2 < 366 := by
    split at within <;> omega
  simp only [Date.InYears, Date.ofDays] at years
  simp only [daysBeforeYear, epochDays] at first short years
  omega

namespace Instant

/-- What clocks `offset` seconds ahead of UTC show. -/
def shown (t : Instant) (offset : Int) : Local :=
  let here := t.seconds + offset
  let s := (here % 86400).toNat
  { date := .ofDays (here / 86400)
    hour := s / 3600
    minute := s / 60 % 60
    second := s % 60 + if t.isLeap then 1 else 0
    fraction := t.fraction }

theorem of?_self (t : Instant) : of? t.seconds t.nanos = some t := by
  rw [of?, dif_pos t.nanos_lt, dif_pos t.supported]

theorem fraction_lt (t : Instant) : t.fraction < nanosPerSecond := by
  have bound := t.nanos_lt
  simp only [fraction, isLeap, decide_eq_true_eq]
  split <;> omega

theorem fraction_add (t : Instant) :
    t.fraction + (if t.isLeap then nanosPerSecond else 0) = t.nanos := by
  simp only [fraction, isLeap, decide_eq_true_eq]
  split <;> omega

/-- Leap seconds are last in their minute. -/
theorem seconds_of_isLeap {t : Instant} (leap : t.isLeap = true) : t.seconds % 60 = 59 := by
  have bound := t.nanos_lt
  simp only [isLeap, decide_eq_true_eq] at leap
  omega

theorem shown_date_zero (t : Instant) : (t.shown 0).date = t.date := by
  simp [shown, date]

theorem supported_of_inYears {t : Instant} {offset : Int} (years : (t.shown offset).date.InYears) :
    minSeconds ≤ t.seconds + offset ∧ t.seconds + offset ≤ maxSeconds := by
  have bounds := inYears_ofDays years
  simp only [minSeconds, maxSeconds]
  omega

theorem shown_proper (t : Instant) (offset : Int) : (t.shown offset).Proper where
  valid := valid_ofDays _
  hour := by simp only [shown]; omega
  minute := by simp only [shown]; omega
  second := by
    simp only [shown]
    split <;> omega

theorem instant?_shown {t : Instant} {offset : Int} (whole : offset % 60 = 0)
    (range : minSeconds ≤ t.seconds + offset ∧ t.seconds + offset ≤ maxSeconds) :
    (t.shown offset).instant? offset = some t := by
  obtain ⟨valid, hour, minute, second⟩ := shown_proper t offset
  -- The second that is counted is the one the leap second belongs to.
  have counted : min (t.shown offset).second 59 = ((t.seconds + offset) % 60).toNat := by
    simp only [shown]
    split
    · rename_i leap
      have last := seconds_of_isLeap leap
      omega
    · omega
  have leap : (t.shown offset).second = 60 ↔ t.isLeap = true := by
    simp only [shown]
    cases leap : t.isLeap with
    | false => simp; omega
    | true =>
        have last := seconds_of_isLeap leap
        simp; omega
  have here : (t.shown offset).date.toDays * 86400 + (t.shown offset).hour * 3600 +
      (t.shown offset).minute * 60 + (min (t.shown offset).second 59 : Nat) = t.seconds + offset := by
    rw [counted]
    simp only [shown, toDays_ofDays]
    omega
  rw [Local.instant?, if_pos ⟨valid, hour, minute, second⟩]
  simp only [here, leap]
  rw [if_pos range, Int.add_sub_cancel, show (t.shown offset).fraction = t.fraction from rfl,
    fraction_add, of?_self]

end Instant
end AccountStore.Calendar

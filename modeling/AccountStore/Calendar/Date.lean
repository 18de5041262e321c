/-!
Dates of the proleptic Gregorian calendar and their day numbers, counted from 1970-01-01.

`toDays_ofDays` says that every day number is the number of the date it names, and `valid_ofDays`
that this date exists.
-/

namespace AccountStore.Calendar

structure Date where
  year : Int
  month : Nat
  day : Nat
deriving DecidableEq, Repr

def isLeapYear (year : Int) : Bool :=
  year % 4 == 0 && (year % 100 != 0 || year % 400 == 0)

def daysInMonth (leap : Bool) (month : Nat) : Nat :=
  match month with
  | 2 => if leap then 29 else 28
  | 4 | 6 | 9 | 11 => 30
  | _ => 31

/-- The number of days of a year that precede the first of a month. -/
def daysBeforeMonth (leap : Bool) (month : Nat) : Nat :=
  let ordinary := #[0, 0, 31, 59, 90, 120, 151, 181, 212, 243, 273, 304, 334][month]?.getD 0
  if leap && 2 < month then ordinary + 1 else ordinary

/-- The number of days between 0001-01-01 and the first of January of a year. -/
def daysBeforeYear (year : Int) : Int :=
  let past := year - 1
  365 * past + past / 4 - past / 100 + past / 400

/-- The number of days between 0001-01-01 and 1970-01-01. -/
def epochDays : Int := 719162

namespace Date

/-- The date exists in the calendar. -/
def Valid (date : Date) : Prop :=
  1 ≤ date.month ∧ date.month ≤ 12 ∧ 1 ≤ date.day ∧
    date.day ≤ daysInMonth (isLeapYear date.year) date.month

instance (date : Date) : Decidable date.Valid :=
  inferInstanceAs (Decidable (_ ∧ _ ∧ _ ∧ _))

/-- The day number of a date. -/
def toDays (date : Date) : Int :=
  daysBeforeYear date.year + daysBeforeMonth (isLeapYear date.year) date.month + date.day - 1 -
    epochDays

/-- The year that holds a day counted from 0001-01-01, and the day's place in it, from zero.

Each step cuts off whole cycles of 400, 100, 4 and 1 years; the last century of a 400-year cycle and
the last year of a 4-year cycle are a day longer than the others. -/
def yearOfDay (day : Int) : Int × Nat :=
  let cycles := day / 146097
  let inCycle := (day % 146097).toNat
  let centuries := min (inCycle / 36524) 3
  let inCentury := inCycle - centuries * 36524
  let quads := inCentury / 1461
  let inQuad := inCentury - quads * 1461
  let years := min (inQuad / 365) 3
  (400 * cycles + 100 * centuries + 4 * quads + years + 1, inQuad - years * 365)

/-- The month that holds a day of the year, counted from zero. -/
def monthOfDay (leap : Bool) (day : Nat) : Nat :=
  ((List.range 12).filter fun m => daysBeforeMonth leap (m + 1) ≤ day).length

/-- The date with a given day number. -/
def ofDays (days : Int) : Date :=
  let (year, day) := yearOfDay (days + epochDays)
  let leap := isLeapYear year
  let month := monthOfDay leap day
  ⟨year, month, day - daysBeforeMonth leap month + 1⟩

end Date

example : (Date.ofDays 19783) = ⟨2024, 3, 1⟩ ∧ (⟨2024, 3, 1⟩ : Date).toDays = 19783 := by decide

/-- The cycles that `yearOfDay` cuts off, with the bounds on what remains after each. -/
theorem yearOfDay_cycles (day : Int) :
    ∃ (cycles : Int) (centuries quads years rest : Nat),
      Date.yearOfDay day = (400 * cycles + 100 * centuries + 4 * quads + years + 1, rest) ∧
      day = 146097 * cycles + 36524 * centuries + 1461 * quads + 365 * years + rest ∧
      centuries ≤ 3 ∧ quads ≤ 24 ∧ years ≤ 3 ∧ rest ≤ 365 ∧
      (rest = 365 → years = 3 ∧ (quads = 24 → centuries = 3)) := by
  refine ⟨_, _, _, _, _, rfl, ?_⟩
  omega

theorem yearOfDay_spec (day : Int) :
    daysBeforeYear (Date.yearOfDay day).1 + (Date.yearOfDay day).2 = day ∧
      (Date.yearOfDay day).2 < if isLeapYear (Date.yearOfDay day).1 then 366 else 365 := by
  obtain ⟨cycles, centuries, quads, years, rest, shape, total, hc, hq, hy, hr, last⟩ :=
    yearOfDay_cycles day
  rw [shape]
  constructor
  · simp only [daysBeforeYear]
    omega
  · by_cases full : rest = 365
    · have leap : isLeapYear (400 * cycles + 100 * centuries + 4 * quads + years + 1) = true := by
        simp only [isLeapYear, Bool.and_eq_true, beq_iff_eq, Bool.or_eq_true, bne_iff_ne, ne_eq]
        omega
      simp [leap, full]
    · split <;> omega

theorem monthOfDay_spec (leap : Bool) (day : Nat) (h : day < if leap then 366 else 365) :
    let month := Date.monthOfDay leap day
    1 ≤ month ∧ month ≤ 12 ∧ daysBeforeMonth leap month ≤ day ∧
      day < daysBeforeMonth leap month + daysInMonth leap month := by
  have every : ∀ leap : Bool, ∀ day : Fin 366, day.val < (if leap then 366 else 365) →
      let month := Date.monthOfDay leap day
      1 ≤ month ∧ month ≤ 12 ∧ daysBeforeMonth leap month ≤ day ∧
        day < daysBeforeMonth leap month + daysInMonth leap month := by decide +kernel
  exact every leap ⟨day, by cases leap <;> simp at h <;> omega⟩ h

theorem valid_ofDays (days : Int) : (Date.ofDays days).Valid := by
  have year := yearOfDay_spec (days + epochDays)
  have month := monthOfDay_spec _ _ year.2
  simp only [Date.Valid, Date.ofDays]
  refine ⟨month.1, month.2.1, by omega, ?_⟩
  have upper := month.2.2.2
  have lower := month.2.2.1
  omega

theorem toDays_ofDays (days : Int) : (Date.ofDays days).toDays = days := by
  have year := yearOfDay_spec (days + epochDays)
  have month := monthOfDay_spec _ _ year.2
  simp only [Date.toDays, Date.ofDays]
  have lower := month.2.2.1
  have spelled := year.1
  omega

end AccountStore.Calendar

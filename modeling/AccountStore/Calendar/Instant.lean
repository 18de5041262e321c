import AccountStore.Calendar.Date
import AccountStore.Text.Digits

/-!
Instants of Coordinated Universal Time with nanosecond precision, leap seconds included.

An instant in a leap second keeps the number of the second before it and carries a whole extra
second in its nanoseconds, so the order of instants of one second is the order of `nanos`. The
written form is RFC 3339 with `Z`; years outside 0..9999 carry a sign.
-/

namespace AccountStore.Calendar
open Text

/-- The first second of the year -262143. -/
def minSeconds : Int := -8334601228800

/-- The last second of the year 262142. -/
def maxSeconds : Int := 8210266876799

/-- The number of nanoseconds of a second. -/
abbrev nanosPerSecond : Nat := 1000000000

structure Instant where
  /-- Seconds since 1970-01-01T00:00:00Z, leap seconds not counted. -/
  seconds : Int
  /-- Nanoseconds since the start of the second; one second more in a leap second. -/
  nanos : Nat
  nanos_lt : nanos < nanosPerSecond ∨ (nanos < 2 * nanosPerSecond ∧ seconds % 60 = 59)
  supported : minSeconds ≤ seconds ∧ seconds ≤ maxSeconds
deriving DecidableEq

namespace Instant

def of? (seconds : Int) (nanos : Nat) : Option Instant :=
  if bounds : nanos < nanosPerSecond ∨ (nanos < 2 * nanosPerSecond ∧ seconds % 60 = 59) then
    if range : minSeconds ≤ seconds ∧ seconds ≤ maxSeconds then
      some ⟨seconds, nanos, bounds, range⟩
    else none
  else none

/-- The zero value of a time column: 1970-01-01T00:00:00Z. -/
def epoch : Instant :=
  ⟨0, 0, by decide, by decide⟩

instance : Inhabited Instant := ⟨epoch⟩

/-- The date of an instant. -/
def date (t : Instant) : Date :=
  Date.ofDays (t.seconds / 86400)

/-- Seconds since midnight, not counting a leap second. -/
def secondOfDay (t : Instant) : Nat :=
  (t.seconds % 86400).toNat

def isLeap (t : Instant) : Bool :=
  nanosPerSecond ≤ t.nanos

/-- The fraction of the second, in nanoseconds. -/
def fraction (t : Instant) : Nat :=
  if t.isLeap then t.nanos - nanosPerSecond else t.nanos

/-- Four digits for the years 0 to 9999; all others have a sign and at least four digits. -/
def yearText (year : Int) : List Char :=
  if 0 ≤ year ∧ year ≤ 9999 then padded 4 year.toNat
  else (if year < 0 then '-' else '+') :: paddedAtLeast 4 year.natAbs

def dateText (date : Date) : List Char :=
  yearText date.year ++ '-' :: padded 2 date.month ++ '-' :: padded 2 date.day

/-- Hours, minutes and seconds; a leap second is second 60. -/
def timeText (t : Instant) : List Char :=
  let s := t.secondOfDay
  padded 2 (s / 3600) ++ ':' :: padded 2 (s / 60 % 60) ++
    ':' :: padded 2 (s % 60 + if t.isLeap then 1 else 0)

/-- Nothing, or a point and three, six or nine digits: the fewest that are exact. -/
def fractionText (nanos : Nat) : List Char :=
  if nanos = 0 then []
  else if nanos % 1000000 = 0 then '.' :: padded 3 (nanos / 1000000)
  else if nanos % 1000 = 0 then '.' :: padded 6 (nanos / 1000)
  else '.' :: padded 9 nanos

/-- The date and time of day of the written form, without the zone. -/
def localText (t : Instant) : List Char :=
  dateText t.date ++ 'T' :: t.timeText ++ fractionText t.fraction

/-- The RFC 3339 form in UTC. -/
def text (t : Instant) : String :=
  String.ofList (t.localText ++ ['Z'])

/-- The form used inside an SQL literal: a space as separator, six digits of the fraction, the rest
cut, and a numeric zone. -/
def sqlText (t : Instant) : String :=
  String.ofList (dateText t.date ++ ' ' :: t.timeText ++ '.' :: padded 6 (t.fraction / 1000) ++
    " +00:00".toList)

end Instant

example : Instant.epoch.text = "1970-01-01T00:00:00Z" := by decide

example :
    (Instant.of? 1483228799 1500000000).map Instant.text = some "2016-12-31T23:59:60.500Z" := by
  decide

example : (Instant.of? minSeconds 0).map Instant.text = some "-262143-01-01T00:00:00Z" := by
  decide +kernel

example : (Instant.of? maxSeconds 0).map Instant.text = some "+262142-12-31T23:59:59Z" := by
  decide +kernel

end AccountStore.Calendar

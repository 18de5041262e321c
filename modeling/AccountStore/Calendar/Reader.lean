import AccountStore.Calendar.Instant
import AccountStore.Text.Blank

/-!
Three readers of date and time texts.

`readStrict?` reads RFC 3339: fixed digit counts and a zone. `readLegacy?` reads a date and a time
of day without a zone, taken as UTC; white space may stand before each number and a part may have
fewer digits. `readLenient?` reads the stored JSON form: a zone as in RFC 3339, white space around
the parts.
-/

namespace AccountStore.Calendar
open Text

/-- A date and time of day as read, not yet checked. -/
structure Local where
  date : Date
  hour : Nat
  minute : Nat
  second : Nat
  /-- Nanoseconds, less than a second. -/
  fraction : Nat

/-- The instant at which clocks `offset` seconds ahead of UTC show a local time.

Second 60 is a leap second, in any minute. -/
def Local.instant? (l : Local) (offset : Int) : Option Instant :=
  if l.date.Valid ∧ l.hour < 24 ∧ l.minute < 60 ∧ l.second ≤ 60 then
    let counted := min l.second 59
    let here : Int := l.date.toDays * 86400 + l.hour * 3600 + l.minute * 60 + counted
    if minSeconds ≤ here ∧ here ≤ maxSeconds then
      Instant.of? (here - offset) (l.fraction + if l.second = 60 then nanosPerSecond else 0)
    else none
  else none

def expect (c : Char) : List Char → Option (List Char)
  | [] => none
  | d :: rest => if c = d then some rest else none

/-- Skips one `T`, `t` or space. -/
def separator : List Char → Option (List Char)
  | 'T' :: rest | 't' :: rest | ' ' :: rest => some rest
  | _ => none

/-- Nanoseconds of a digit sequence after the point; digits beyond the ninth are cut. -/
def nanosOf (digits : List Char) : Nat :=
  value ((digits ++ List.replicate 9 '0').take 9)

/-- Reads a point and at least one digit; without a point the fraction is zero. -/
def readFraction : List Char → Option (Nat × List Char)
  | '.' :: rest =>
      let digits := rest.takeWhile isDigit
      if digits.isEmpty then none else some (nanosOf digits, rest.drop digits.length)
  | cs => some (0, cs)

/-- Reads the hours and minutes of a zone after its sign. -/
def readOffset (skipColon : List Char → Option (List Char)) (cs : List Char) :
    Option (Nat × List Char) := do
  let (hours, cs) ← takeNumber 2 2 cs
  let cs ← skipColon cs
  let (minutes, cs) ← takeNumber 2 2 cs
  if minutes < 60 then some (hours * 3600 + minutes * 60, cs) else none

/-- Reads `Z`, `z`, or a sign with hours and minutes; U+2212 is a minus sign too. -/
def readZone (skipColon : List Char → Option (List Char)) : List Char → Option (Int × List Char)
  | 'Z' :: rest | 'z' :: rest => some (0, rest)
  | '+' :: rest => (readOffset skipColon rest).map fun (n, cs) => ((n : Int), cs)
  | '-' :: rest | '\u2212' :: rest =>
      (readOffset skipColon rest).map fun (n, cs) => (-(n : Int), cs)
  | _ => none

/-- The farthest a zone may be from UTC: 23 hours and 59 minutes. -/
def maxOffset : Int := 86340

/-- Reads an RFC 3339 date and time, to the end of the text. -/
def readStrict? (cs : List Char) : Option Instant := do
  let (year, cs) ← takeNumber 4 4 cs
  let cs ← expect '-' cs
  let (month, cs) ← takeNumber 2 2 cs
  let cs ← expect '-' cs
  let (day, cs) ← takeNumber 2 2 cs
  let cs ← separator cs
  let (hour, cs) ← takeNumber 2 2 cs
  let cs ← expect ':' cs
  let (minute, cs) ← takeNumber 2 2 cs
  let cs ← expect ':' cs
  let (second, cs) ← takeNumber 2 2 cs
  let (fraction, cs) ← readFraction cs
  let (offset, cs) ← readZone (expect ':') cs
  if cs.isEmpty ∧ -maxOffset ≤ offset ∧ offset ≤ maxOffset then
    Local.instant? ⟨⟨year, month, day⟩, hour, minute, second, fraction⟩ offset
  else none

/-- Reads a year: after a sign with any number of digits, otherwise with at most four. -/
def readYear (cs : List Char) : Option (Int × List Char) :=
  match skipBlanks cs with
  | '-' :: rest => (takeNumber 1 rest.length rest).map fun (n, cs) => (-(n : Int), cs)
  | '+' :: rest => (takeNumber 1 rest.length rest).map fun (n, cs) => ((n : Int), cs)
  | cs => (takeNumber 1 4 cs).map fun (n, cs) => ((n : Int), cs)

/-- Reads a part of one or two digits after any white space. -/
def readPart (cs : List Char) : Option (Nat × List Char) :=
  takeNumber 1 2 (skipBlanks cs)

/-- Reads a date and time of day, to the end of the text, and takes it as UTC. -/
def readLegacy? (cs : List Char) : Option Instant := do
  let (year, cs) ← readYear cs
  let cs ← expect '-' cs
  let (month, cs) ← readPart cs
  let cs ← expect '-' cs
  let (day, cs) ← readPart cs
  let (hour, cs) ← readPart cs
  let cs ← expect ':' cs
  let (minute, cs) ← readPart cs
  let cs ← expect ':' cs
  let (second, cs) ← readPart cs
  if cs.isEmpty then Local.instant? ⟨⟨year, month, day⟩, hour, minute, second, 0⟩ 0 else none

/-- Skips colons and white space. -/
def skipColons (cs : List Char) : Option (List Char) :=
  some (cs.dropWhile fun c => c = ':' || isBlank c)

/-- Reads the letters `UTC` in either case, or a zone. -/
def readNamedZone (cs : List Char) : Option (Int × List Char) :=
  if (cs.take 3).map Char.toUpper = "UTC".toList then some (0, cs.drop 3)
  else readZone skipColons cs

/-- Reads the stored form, to the end of the text but for white space. -/
def readLenient? (cs : List Char) : Option Instant := do
  let (year, cs) ← readYear cs
  let cs ← expect '-' (skipBlanks cs)
  let (month, cs) ← readPart cs
  let cs ← expect '-' (skipBlanks cs)
  let (day, cs) ← readPart cs
  let cs ← separator cs
  let (hour, cs) ← readPart cs
  let cs ← expect ':' (skipBlanks cs)
  let (minute, cs) ← readPart cs
  let cs ← expect ':' (skipBlanks cs)
  let (second, cs) ← readPart cs
  let (fraction, cs) ← readFraction cs
  let (offset, cs) ← readNamedZone (skipBlanks cs)
  if (skipBlanks cs).isEmpty ∧ -86400 < offset ∧ offset < 86400 then
    Local.instant? ⟨⟨year, month, day⟩, hour, minute, second, fraction⟩ offset
  else none

/-- A creation time as a filter gives it: RFC 3339, else the legacy form. -/
def readFilterTime? (text : String) : Option Instant :=
  (readStrict? text.toList).orElse fun _ => readLegacy? text.toList

end AccountStore.Calendar

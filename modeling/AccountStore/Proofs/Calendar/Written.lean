import AccountStore.Proofs.Calendar.Shown
import AccountStore.Proofs.Text.Digits

/-!
# Written date-times

A `Form` is one of the ways in which RFC 3339 writes an instant: a separator, a zone and digits
after the point, of any number. Each is read back as the instant by `readStrict?` if its year has
four digits (`readStrict?_write`), whatever the zone shows. `readLegacy?` and `readLenient?` read
back the texts they are made for in all supported years (`readLegacy?_text`, `readLenient?_text`).
-/

namespace AccountStore.Calendar
open Text

/-! ## Forms -/

/-- A zone: the letter of UTC, or a sign with hours and minutes. -/
inductive Zone where
  | utc
  | ahead (hours : Fin 24) (minutes : Fin 60)
  | behind (hours : Fin 24) (minutes : Fin 60)
deriving DecidableEq

namespace Zone

def distance (hours : Fin 24) (minutes : Fin 60) : Nat :=
  hours * 3600 + minutes * 60

/-- How many seconds ahead of UTC clocks of the zone are. -/
def offset : Zone → Int
  | utc => 0
  | ahead hours minutes => distance hours minutes
  | behind hours minutes => -distance hours minutes

def text : Zone → List Char
  | utc => ['Z']
  | ahead hours minutes => '+' :: padded 2 hours ++ ':' :: padded 2 minutes
  | behind hours minutes => '-' :: padded 2 hours ++ ':' :: padded 2 minutes

end Zone

inductive Separator where
  | upperT
  | lowerT
  | space
deriving DecidableEq

def Separator.char : Separator → Char
  | upperT => 'T'
  | lowerT => 't'
  | space => ' '

/-- How an instant is written. -/
structure Form where
  separator : Separator
  /-- The digits after the point; without digits there is no point. -/
  places : List Char
  zone : Zone
deriving DecidableEq

/-- The digits are those of a fraction of a second, cut to whole nanoseconds. -/
def Spells (places : List Char) (nanos : Nat) : Prop :=
  (∀ c ∈ places, isDigit c = true) ∧
    value places * nanosPerSecond / 10 ^ places.length = nanos

instance (places : List Char) (nanos : Nat) : Decidable (Spells places nanos) :=
  have := List.decidableBAll (isDigit · = true) places
  inferInstanceAs (Decidable (_ ∧ _))

/-- Hours, minutes and seconds. -/
def Local.clockText (l : Local) : List Char :=
  padded 2 l.hour ++ ':' :: padded 2 l.minute ++ ':' :: padded 2 l.second

/-- The text of an instant in a form: the date and time that the zone shows, and the zone. -/
def Form.write (form : Form) (t : Instant) : String :=
  let l := t.shown form.zone.offset
  String.ofList (Instant.dateText l.date ++ form.separator.char :: l.clockText ++
    pointText form.places ++ form.zone.text)

/-! ## Fractions -/

theorem nanosOf_eq {places : List Char} (all : ∀ c ∈ places, isDigit c = true) :
    nanosOf places = value places * nanosPerSecond / 10 ^ places.length := by
  have filled : ∀ c ∈ places ++ List.replicate 9 '0', isDigit c = true := by
    intro c member
    rcases List.mem_append.1 member with inside | zero
    · exact all c inside
    · exact List.eq_of_mem_replicate zero ▸ isDigit_zero
  rw [nanosOf, value_take filled, value_append, value_zeros, List.length_append,
    List.length_replicate, Nat.add_sub_cancel, Nat.add_zero]
  rfl

theorem readFraction_pointText {places : List Char} {nanos : Nat} (spelled : Spells places nanos)
    {c : Char} (digit : isDigit c = false) (point : c ≠ '.') (rest : List Char) :
    readFraction (pointText places ++ c :: rest) = some (nanos, c :: rest) := by
  obtain ⟨all, rfl⟩ := spelled
  cases places with
  | nil => simp [pointText, readFraction, point, value]
  | cons first places =>
      have apart : NoDigitFirst (c :: rest) := noDigitFirst_cons digit
      have run := takeWhile_append all apart
      rw [pointText, List.cons_append, readFraction, run, nanosOf_eq all, List.drop_left]
      · rfl
      · intro nil
        cases nil

theorem spells_padded {width : Nat} (few : width ≤ 9) {nanos : Nat}
    (exact : nanos % 10 ^ (9 - width) = 0) (small : nanos < nanosPerSecond) :
    Spells (padded width (nanos / 10 ^ (9 - width))) nanos := by
  have power : nanosPerSecond = 10 ^ width * 10 ^ (9 - width) := by
    rw [← Nat.pow_add, Nat.add_sub_cancel' few]
  refine ⟨fun c => isDigit_of_mem_padded, ?_⟩
  have fits : nanos / 10 ^ (9 - width) < 10 ^ width :=
    Nat.div_lt_of_lt_mul (by rw [Nat.mul_comm, ← power]; exact small)
  rw [value_padded, length_padded, show Nat.pow 10 width = 10 ^ width from rfl,
    Nat.mod_eq_of_lt fits, power, Nat.mul_left_comm, Nat.mul_div_cancel_left _ (by positivity),
    Nat.div_mul_cancel (Nat.dvd_of_mod_eq_zero exact)]

/-- The fraction of the written form has the digits of its nanoseconds, as few as are exact. -/
theorem exists_fractionText {nanos : Nat} (small : nanos < nanosPerSecond) :
    ∃ places, Instant.fractionText nanos = pointText places ∧ Spells places nanos := by
  have shape (width n : Nat) : '.' :: padded (width + 1) n = pointText (padded (width + 1) n) := by
    have length := length_padded (width + 1) n
    cases digits : padded (width + 1) n with
    | nil => simp [digits] at length
    | cons c cs => rfl
  rw [Instant.fractionText]
  split
  · rename_i zero
    exact ⟨[], rfl, by simp, by simp [value, zero]⟩
  · split
    · rename_i exact
      exact ⟨_, shape 2 _, spells_padded (by decide) exact small⟩
    · split
      · rename_i exact
        exact ⟨_, shape 5 _, spells_padded (by decide) exact small⟩
      · have whole : Spells (padded 9 (nanos / 1)) nanos :=
          spells_padded le_rfl (Nat.mod_one _) small
        exact ⟨_, shape 8 _, by simpa using whole⟩

/-! ## Parts -/

/-- What is read first is passed on. -/
theorem bind_of_some {α β : Type} {x : Option α} {a : α} (read : x = some a)
    (next : α → Option β) : (x >>= next) = next a := by
  rw [read]
  rfl

theorem separator_char (form : Separator) (rest : List Char) :
    separator (form.char :: rest) = some rest := by
  cases form <;> rfl

@[simp]
theorem expect_self (c : Char) (rest : List Char) : expect c (c :: rest) = some rest := by
  simp [expect]

theorem readOffset_padded (hours : Fin 24) (minutes : Fin 60) :
    readOffset (expect ':') (padded 2 hours ++ ':' :: padded 2 minutes) =
      some (Zone.distance hours minutes, []) := by
  have hour := takeNumber_padded 2 2 hours (by omega) le_rfl (':' :: padded 2 minutes)
  have minute := takeNumber_padded 2 2 minutes (by omega) le_rfl []
  rw [List.append_nil] at minute
  simp [readOffset, hour, minute, minutes.isLt, Zone.distance]

theorem readZone_text (zone : Zone) : readZone (expect ':') zone.text = some (zone.offset, []) := by
  cases zone with
  | utc => rfl
  | ahead hours minutes => simp [Zone.text, readZone, readOffset_padded, Zone.offset]
  | behind hours minutes => simp [Zone.text, readZone, readOffset_padded, Zone.offset]

theorem Zone.offset_bounds (zone : Zone) :
    zone.offset % 60 = 0 ∧ -maxOffset ≤ zone.offset ∧ zone.offset ≤ maxOffset := by
  cases zone <;> simp only [offset, distance, maxOffset] <;> omega

theorem Zone.exists_text (zone : Zone) :
    ∃ c tail, zone.text = c :: tail ∧ isDigit c = false ∧ c ≠ '.' := by
  cases zone with
  | utc => exact ⟨'Z', [], rfl, by decide, by decide⟩
  | ahead hours minutes => exact ⟨'+', _, rfl, by decide, by decide⟩
  | behind hours minutes => exact ⟨'-', _, rfl, by decide, by decide⟩

theorem Date.Valid.small {date : Date} (valid : date.Valid) :
    date.month < 10 ^ 2 ∧ date.day < 10 ^ 2 := by
  obtain ⟨-, months, -, days⟩ := valid
  have longest : daysInMonth (isLeapYear date.year) date.month ≤ 31 := by
    unfold daysInMonth
    split <;> (try split) <;> decide
  omega

theorem dateText_of_inYears {date : Date} (years : date.InYears) :
    Instant.dateText date =
      padded 4 date.year.toNat ++ '-' :: padded 2 date.month ++ '-' :: padded 2 date.day := by
  rw [Instant.dateText, Instant.yearText]
  exact congrArg (· ++ _ ++ _) (if_pos years)

/-! ## RFC 3339 -/

theorem readStrict?_text {l : Local} (proper : l.Proper) (years : l.date.InYears)
    {places : List Char} (spelled : Spells places l.fraction) (divider : Separator) (zone : Zone) :
    readStrict? (Instant.dateText l.date ++ divider.char :: l.clockText ++ pointText places ++
      zone.text) = l.instant? zone.offset := by
  obtain ⟨valid, hour, minute, second⟩ := proper
  obtain ⟨month, day⟩ := valid.small
  obtain ⟨c, tail, starts, digit, point⟩ := zone.exists_text
  obtain ⟨-, least, greatest⟩ := zone.offset_bounds
  have fraction := readFraction_pointText spelled digit point tail
  rw [← starts] at fraction
  have year : l.date.year.toNat < 10 ^ 4 := by
    have := years.2
    omega
  have yearly : ((l.date.year.toNat : Nat) : Int) = l.date.year := Int.toNat_of_nonneg years.1
  simp only [dateText_of_inYears years, Local.clockText, List.append_assoc, List.cons_append]
  refine (bind_of_some (takeNumber_padded 4 4 _ year le_rfl _) _).trans ?_
  refine (bind_of_some (expect_self _ _) _).trans ?_
  refine (bind_of_some (takeNumber_padded 2 2 _ month le_rfl _) _).trans ?_
  refine (bind_of_some (expect_self _ _) _).trans ?_
  refine (bind_of_some (takeNumber_padded 2 2 _ day le_rfl _) _).trans ?_
  refine (bind_of_some (separator_char _ _) _).trans ?_
  refine (bind_of_some (takeNumber_padded 2 2 _ (by omega) le_rfl _) _).trans ?_
  refine (bind_of_some (expect_self _ _) _).trans ?_
  refine (bind_of_some (takeNumber_padded 2 2 _ (by omega) le_rfl _) _).trans ?_
  refine (bind_of_some (expect_self _ _) _).trans ?_
  refine (bind_of_some (takeNumber_padded 2 2 _ (by omega) le_rfl _) _).trans ?_
  refine (bind_of_some fraction _).trans ?_
  refine (bind_of_some (readZone_text zone) _).trans ?_
  simp [yearly, least, greatest]

/-- Every form of an instant is read as the instant, if the year it shows has four digits. -/
theorem readStrict?_write {form : Form} {t : Instant} (spelled : Spells form.places t.fraction)
    (years : (t.shown form.zone.offset).date.InYears) :
    readStrict? (form.write t).toList = some t := by
  obtain ⟨whole, -⟩ := form.zone.offset_bounds
  rw [Form.write, String.toList_ofList,
    readStrict?_text (t.shown_proper _) years (by exact spelled) form.separator form.zone]
  exact Instant.instant?_shown whole (Instant.supported_of_inYears years)

theorem timeText_eq (t : Instant) : t.timeText = (t.shown 0).clockText := by
  simp [Instant.timeText, Local.clockText, Instant.shown, Instant.secondOfDay]

/-- The written form of an instant is one of its forms. -/
theorem exists_write_eq (t : Instant) :
    ∃ places, Spells places t.fraction ∧ t.text = (⟨.upperT, places, .utc⟩ : Form).write t := by
  obtain ⟨places, shape, spelled⟩ := exists_fractionText t.fraction_lt
  refine ⟨places, spelled, ?_⟩
  simp [Instant.text, Instant.localText, Form.write, shape, timeText_eq, Zone.offset, Zone.text,
    Separator.char, Instant.shown_date_zero]

/-! ## Texts without a zone -/

theorem readYear_of_takeNumber {cs rest : List Char} {n : Nat}
    (read : takeNumber 4 4 cs = some (n, rest)) : readYear cs = some ((n : Int), rest) := by
  obtain ⟨read, solid, c, tail, rfl, digit⟩ := readable_of_takeNumber read
  rw [readYear, solid]
  split
  · rename_i sign
    cases sign
    exact absurd digit (by decide)
  · rename_i sign
    cases sign
    exact absurd digit (by decide)
  · rw [read]
    rfl

theorem readYear_signed (sign : Char) (negative : Bool) (n : Nat) (rest : List Char)
    (spelled : sign = if negative then '-' else '+') :
    readYear (sign :: paddedAtLeast 4 n ++ '-' :: rest) =
      some (if negative then -(n : Int) else n, '-' :: rest) := by
  have read : takeNumber 1 (paddedAtLeast 4 n ++ '-' :: rest).length
      (paddedAtLeast 4 n ++ '-' :: rest) = some (n, '-' :: rest) := by
    rw [takeNumber_append (fun c => isDigit_of_mem_paddedAtLeast) (length_paddedAtLeast_pos 4 n)
      (by simp) (.inr (noDigitFirst_cons (by decide))), value_paddedAtLeast]
  cases negative <;> subst spelled <;>
    rw [readYear, List.cons_append, skipBlanks_cons (by decide)] <;> simpa using read

theorem readYear_yearText (year : Int) (rest : List Char) :
    readYear (Instant.yearText year ++ '-' :: rest) = some (year, '-' :: rest) := by
  rw [Instant.yearText]
  split
  · rename_i years
    have small : year.toNat < 10 ^ 4 := by omega
    rw [readYear_of_takeNumber (takeNumber_padded 4 4 _ small le_rfl _),
      Int.toNat_of_nonneg years.1]
  · rw [readYear_signed _ (year < 0) _ _ (by simp)]
    simp only [decide_eq_true_eq]
    split <;> congr <;> omega

theorem readPart_of_takeNumber {cs rest : List Char} {n : Nat}
    (read : takeNumber 2 2 cs = some (n, rest)) : readPart cs = some (n, rest) := by
  obtain ⟨read, solid, -⟩ := readable_of_takeNumber read
  rw [readPart, solid, read]

theorem readPart_padded {n : Nat} (small : n < 10 ^ 2) (rest : List Char) :
    readPart (padded 2 n ++ rest) = some (n, rest) :=
  readPart_of_takeNumber (takeNumber_padded 2 2 n small le_rfl rest)

theorem readPart_space (rest : List Char) : readPart (' ' :: rest) = readPart rest := rfl

theorem expect_skipBlanks {c : Char} (solid : isBlank c = false) (rest : List Char) :
    expect c (skipBlanks (c :: rest)) = some rest := by
  rw [skipBlanks_cons solid, expect_self]

theorem readLegacy?_text {l : Local} (proper : l.Proper) (whole : l.fraction = 0) :
    readLegacy? (Instant.dateText l.date ++ ' ' :: l.clockText) = l.instant? 0 := by
  obtain ⟨valid, hour, minute, second⟩ := proper
  obtain ⟨month, day⟩ := valid.small
  have first := (readPart_space _).trans (readPart_padded (n := l.hour) (by omega)
    (':' :: padded 2 l.minute ++ ':' :: padded 2 l.second))
  have last := readPart_padded (n := l.second) (by omega) []
  rw [List.append_nil] at last
  simp only [Instant.dateText, Local.clockText, List.append_assoc, List.cons_append] at first ⊢
  refine (bind_of_some (readYear_yearText _ _) _).trans ?_
  refine (bind_of_some (expect_self _ _) _).trans ?_
  refine (bind_of_some (readPart_padded month _) _).trans ?_
  refine (bind_of_some (expect_self _ _) _).trans ?_
  refine (bind_of_some (readPart_padded day _) _).trans ?_
  refine (bind_of_some first _).trans ?_
  refine (bind_of_some (expect_self _ _) _).trans ?_
  refine (bind_of_some (readPart_padded (by omega) _) _).trans ?_
  refine (bind_of_some (expect_self _ _) _).trans ?_
  refine (bind_of_some last _).trans ?_
  simp [← whole]

theorem readLenient?_text (t : Instant) : readLenient? t.text.toList = some t := by
  obtain ⟨places, shape, spelled⟩ := exists_fractionText t.fraction_lt
  obtain ⟨valid, hour, minute, second⟩ := t.shown_proper 0
  obtain ⟨month, day⟩ := valid.small
  have read : (t.shown 0).instant? 0 = some t :=
    Instant.instant?_shown rfl (by simpa using t.supported)
  have fraction := readFraction_pointText spelled (c := 'Z') (by decide) (by decide) []
  have date := t.shown_date_zero
  have zone : readNamedZone (skipBlanks ['Z']) = some (0, []) := rfl
  rw [Instant.text, String.toList_ofList, Instant.localText, shape, timeText_eq, ← date]
  rw [← show (t.shown 0).fraction = t.fraction from rfl] at fraction
  generalize t.shown 0 = l at *
  simp only [Instant.dateText, Local.clockText, List.append_assoc, List.cons_append]
  refine (bind_of_some (readYear_yearText _ _) _).trans ?_
  refine (bind_of_some (expect_skipBlanks (by decide) _) _).trans ?_
  refine (bind_of_some (readPart_padded month _) _).trans ?_
  refine (bind_of_some (expect_skipBlanks (by decide) _) _).trans ?_
  refine (bind_of_some (readPart_padded day _) _).trans ?_
  refine (bind_of_some (separator_char .upperT _) _).trans ?_
  refine (bind_of_some (readPart_padded (by omega) _) _).trans ?_
  refine (bind_of_some (expect_skipBlanks (by decide) _) _).trans ?_
  refine (bind_of_some (readPart_padded (by omega) _) _).trans ?_
  refine (bind_of_some (expect_skipBlanks (by decide) _) _).trans ?_
  refine (bind_of_some (readPart_padded (by omega) _) _).trans ?_
  refine (bind_of_some fraction _).trans ?_
  refine (bind_of_some zone _).trans ?_
  exact read

end AccountStore.Calendar

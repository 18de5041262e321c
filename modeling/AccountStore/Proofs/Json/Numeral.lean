import AccountStore.Json.Reader
import AccountStore.Json.Writer
import AccountStore.Proofs.Text.Digits

/-!
# Written numbers

A `Numeral` is a JSON number in its parts. Reading takes all of its text and no more, and gives its
value (`readNumber_text`). Whole numbers and the layouts of decimals are numerals. A whole number is
the value of its numeral (`Numeral.value_ofInt`), and the value of a decimal's is the same decimal
as the layout spells it (`Numeral.value_ofDecimal`).
-/

namespace AccountStore.Json
open Number Text

structure Numeral where
  negative : Bool
  /-- The digits before the point. -/
  whole : List Char
  /-- The digits after the point; without digits there is no point. -/
  places : List Char
  power : Option Int

namespace Numeral

def powerText : Option Int → List Char
  | none => []
  | some power => 'e' :: (if power < 0 then '-' else '+') :: decimal power.natAbs

def text (n : Numeral) : List Char :=
  (if n.negative then ['-'] else []) ++ n.whole ++ pointText n.places ++ powerText n.power

def value (n : Numeral) : Json :=
  let digits := Text.value (n.whole ++ n.places)
  if n.places.isEmpty ∧ n.power.isNone ∧ ¬(n.negative ∧ digits = 0) then
    .int (if n.negative then -(digits : Int) else digits)
  else .real ⟨n.negative, digits, n.power.getD 0 - n.places.length⟩

/-- The parts are digits, and a zero in front is the only digit before the point. -/
structure Proper (n : Numeral) : Prop where
  whole : ∀ c ∈ n.whole, isDigit c = true
  nonempty : n.whole ≠ []
  leading : n.whole.head? = some '0' → n.whole.length = 1
  places : ∀ c ∈ n.places, isDigit c = true

end Numeral

/-- The text does not go on with a character of a number. -/
def Ends (cs : List Char) : Prop :=
  ∀ c rest, cs = c :: rest → isDigit c = false ∧ c ≠ '.' ∧ c ≠ 'e' ∧ c ≠ 'E'

theorem ends_nil : Ends [] := by
  intro c rest eq
  cases eq

theorem ends_cons {c : Char} {cs : List Char}
    (apart : isDigit c = false ∧ c ≠ '.' ∧ c ≠ 'e' ∧ c ≠ 'E') : Ends (c :: cs) := by
  intro d rest eq
  cases eq
  exact apart

theorem Ends.noDigitFirst {cs : List Char} (ends : Ends cs) : NoDigitFirst cs :=
  fun c rest eq => (ends c rest eq).1

theorem readExponent_powerText (power : Option Int) {rest : List Char} (ends : Ends rest) :
    readExponent (Numeral.powerText power ++ rest) = some (power, rest) := by
  cases power with
  | none =>
      cases rest with
      | nil => rfl
      | cons c rest =>
          obtain ⟨-, -, lower, upper⟩ := ends c rest rfl
          simp [Numeral.powerText, readExponent, lower, upper]
  | some power =>
      have read : takeNumber 1 (decimal power.natAbs ++ rest).length (decimal power.natAbs ++ rest) =
          some (power.natAbs, rest) := by
        rw [takeNumber_append (fun c => isDigit_of_mem_decimal) (length_decimal_pos _) (by simp)
          (.inr ends.noDigitFirst), value_decimal]
      by_cases negative : power < 0
      · simp only [Numeral.powerText, if_pos negative, List.cons_append, readExponent, read,
          Option.map_some, if_true]
        congr
        omega
      · simp only [Numeral.powerText, if_neg negative, List.cons_append, readExponent, read,
          Option.map_some, Bool.false_eq_true, if_false]
        congr
        omega

theorem noDigitFirst_pointText (places : List Char) {cs : List Char} (apart : NoDigitFirst cs) :
    NoDigitFirst (pointText places ++ cs) := by
  cases places with
  | nil => exact apart
  | cons c places => exact noDigitFirst_cons (by decide)

theorem noDigitFirst_powerText (power : Option Int) {cs : List Char} (apart : NoDigitFirst cs) :
    NoDigitFirst (Numeral.powerText power ++ cs) := by
  cases power with
  | none => exact apart
  | some power => exact noDigitFirst_cons (by decide)

theorem Ends.not_point {power : Option Int} {rest : List Char} (ends : Ends rest)
    (r : List Char) : Numeral.powerText power ++ rest ≠ '.' :: r := by
  cases power with
  | none => exact fun eq => (ends '.' r eq).2.1 rfl
  | some power => simp [Numeral.powerText]

/-- The text of a numeral is read up to its end. -/
theorem readNumber_text {n : Numeral} (proper : n.Proper) {rest : List Char} (ends : Ends rest) :
    readNumber (n.text ++ rest) = some (n.value, rest) := by
  obtain ⟨negative, whole, places, power⟩ := n
  obtain ⟨digits, nonempty, leading, digitsAfter⟩ := proper
  simp only at digits nonempty leading digitsAfter
  have exponent := readExponent_powerText power ends
  have apart := noDigitFirst_powerText power ends.noDigitFirst
  have run := takeWhile_append digits (noDigitFirst_pointText places apart)
  have fine : (whole.isEmpty || (whole.head? == some '0' && decide (1 < whole.length))) = false := by
    simp only [Bool.or_eq_false_iff, List.isEmpty_eq_false_iff, Bool.and_eq_false_iff]
    refine ⟨nonempty, ?_⟩
    by_cases zero : whole.head? = some '0'
    · exact .inr (by simp [leading zero])
    · exact .inl (by simpa using zero)
  have unsigned (r : List Char) : whole ++ (pointText places ++ (Numeral.powerText power ++ rest)) =
      '-' :: r → False := by
    cases whole with
    | nil => exact absurd rfl nonempty
    | cons d ds =>
        intro eq
        have minus : d = '-' := (List.cons.inj eq).1
        exact absurd (digits d List.mem_cons_self) (minus ▸ by decide)
  unfold readNumber
  split
  rename_i sign remaining taken
  obtain ⟨rfl, rfl⟩ : negative = sign ∧
      whole ++ (pointText places ++ (Numeral.powerText power ++ rest)) = remaining := by
    cases negative with
    | true => simpa [Numeral.text] using taken
    | false =>
        simp only [Numeral.text, Bool.false_eq_true, if_false, List.nil_append,
          List.append_assoc] at taken
        simpa using taken
  simp only [run, fine, List.drop_left, Bool.false_eq_true, if_false]
  cases places with
  | nil =>
      simp only [pointText, List.nil_append]
      split
      · rename_i r shape
        exact absurd shape (ends.not_point r)
      · simp only [Option.bind_eq_bind, Option.bind_some, exponent, Numeral.value]
        split <;> rfl
  | cons c places =>
      have more := takeWhile_append digitsAfter apart
      simp only [pointText, List.cons_append] at more ⊢
      have left : (c :: (places ++ (Numeral.powerText power ++ rest))).drop (c :: places).length =
          Numeral.powerText power ++ rest := by
        rw [← List.cons_append, List.drop_left]
      simp only [more, left, List.isEmpty_cons, Bool.false_eq_true, if_false, Option.bind_eq_bind,
        Option.bind_some, exponent, Numeral.value]
      split <;> rfl

theorem Numeral.Proper.exists_text {n : Numeral} (proper : n.Proper) :
    ∃ c cs, n.text = c :: cs ∧ (c = '-' ∨ isDigit c = true) := by
  obtain ⟨negative, whole, places, power⟩ := n
  cases negative with
  | true => exact ⟨'-', _, rfl, .inl rfl⟩
  | false =>
      cases whole with
      | nil => exact absurd rfl proper.nonempty
      | cons c cs => exact ⟨c, _, rfl, .inr (proper.whole c List.mem_cons_self)⟩

/-! ## Whole numbers -/

theorem head?_decimal {n : Nat} (zero : (decimal n).head? = some '0') : (decimal n).length = 1 := by
  fun_induction decimal n with
  | case1 n small => rfl
  | case2 n large ih =>
      have nonempty : decimal (n / 10) ≠ [] := List.ne_nil_of_length_pos (length_decimal_pos _)
      rw [List.head?_append_of_ne_nil _ nonempty] at zero
      -- A zero in front would be the only digit of a tenth of the number.
      obtain ⟨c, only⟩ := List.length_eq_one_iff.1 (ih zero)
      have value := value_decimal (n / 10)
      simp only [only, List.head?_cons, Option.some.injEq] at zero
      subst zero
      rw [only] at value
      have tenth : n / 10 = 0 := value.symm
      omega

/-- The numeral of a whole number. -/
def Numeral.ofInt (n : Int) : Numeral :=
  ⟨n < 0, decimal n.natAbs, [], none⟩

theorem Numeral.proper_ofInt (n : Int) : (Numeral.ofInt n).Proper where
  whole _ := isDigit_of_mem_decimal
  nonempty := List.ne_nil_of_length_pos (length_decimal_pos _)
  leading := head?_decimal
  places := by simp [ofInt]

theorem Numeral.text_ofInt (n : Int) : (Numeral.ofInt n).text = signed n := by
  by_cases negative : n < 0 <;>
    simp [Numeral.text, Numeral.ofInt, signed, negative, pointText, Numeral.powerText]

theorem Numeral.value_ofInt (n : Int) : (Numeral.ofInt n).value = .int n := by
  simp only [Numeral.value, Numeral.ofInt, List.append_nil, value_decimal, decide_eq_true_eq]
  rw [if_pos ⟨rfl, rfl, by omega⟩]
  congr
  split <;> omega

/-! ## Decimals -/

theorem trimZeros_ne_zero {digits : Nat} (nonzero : digits ≠ 0) (fuel : Nat) (exponent : Int) :
    (Decimal.trimZeros fuel digits exponent).1 ≠ 0 := by
  induction fuel generalizing digits exponent with
  | zero => exact nonzero
  | succ fuel ih =>
      rw [Decimal.trimZeros]
      split
      · exact ih (by omega) _
      · exact nonzero

/-- Zero has the exponent zero. -/
theorem exponent_normal {d : Decimal} (zero : d.normal.digits = 0) : d.normal.exponent = 0 := by
  unfold Decimal.normal at zero ⊢
  split
  · rfl
  · rename_i nonzero
    rw [if_neg nonzero] at zero
    exact absurd zero (trimZeros_ne_zero nonzero _ _)

/-- The decimal that the layout of a decimal is read as: the same number, with a digit after the
point if there was none. -/
def spelled (l : Layout) (d : Decimal) : Decimal :=
  let n := d.normal
  let power := n.exponent + ((decimal n.digits).length - 1 : Nat)
  if l.least ≤ power ∧ power ≤ l.greatest ∧ 0 ≤ n.exponent then
    ⟨n.negative, n.digits * 10 ^ (n.exponent.toNat + 1), -1⟩
  else n

/-- The numeral of a decimal in a layout. -/
def Numeral.ofDecimal (l : Layout) (d : Decimal) : Numeral :=
  let n := d.normal
  let digits := decimal n.digits
  let power := n.exponent + (digits.length - 1 : Nat)
  if l.least ≤ power ∧ power ≤ l.greatest then
    if 0 ≤ n.exponent then
      ⟨n.negative, digits ++ List.replicate n.exponent.toNat '0', ['0'], none⟩
    else if digits.length ≤ n.exponent.natAbs then
      ⟨n.negative, ['0'], List.replicate (n.exponent.natAbs - digits.length) '0' ++ digits, none⟩
    else
      ⟨n.negative, digits.take (digits.length - n.exponent.natAbs),
        digits.drop (digits.length - n.exponent.natAbs), none⟩
  else ⟨n.negative, digits.take 1, digits.drop 1, some power⟩

theorem pointText_of_nonempty {places : List Char} (nonempty : places ≠ []) :
    pointText places = '.' :: places := by
  cases places with
  | nil => exact absurd rfl nonempty
  | cons c places => rfl

theorem Numeral.text_ofDecimal (l : Layout) (d : Decimal) :
    (Numeral.ofDecimal l d).text = (d.layout l).toList := by
  have positive := length_decimal_pos d.normal.digits
  rw [Decimal.layout, String.toList_ofList, Numeral.ofDecimal]
  split
  · rw [Decimal.positional]
    split
    · simp [Numeral.text, Decimal.sign, pointText, powerText]
    · split
      · rename_i small
        rw [Numeral.text, pointText_of_nonempty (by simp [List.ne_nil_of_length_pos positive]),
          if_pos small]
        simp [Decimal.sign, powerText]
      · rename_i fraction inside
        have after : (decimal d.normal.digits).drop
            ((decimal d.normal.digits).length - d.normal.exponent.natAbs) ≠ [] :=
          List.ne_nil_of_length_pos (by rw [List.length_drop]; omega)
        rw [Numeral.text, pointText_of_nonempty after, if_neg inside]
        simp [Decimal.sign, powerText]
  · rw [Decimal.scientific]
    split
    · rename_i one
      have after : (decimal d.normal.digits).drop 1 = [] := List.drop_eq_nil_of_le one
      simp [Numeral.text, Decimal.sign, after, pointText, powerText]
    · rename_i many
      have after : (decimal d.normal.digits).drop 1 ≠ [] :=
        List.ne_nil_of_length_pos (by rw [List.length_drop]; omega)
      rw [Numeral.text, pointText_of_nonempty after]
      simp [Decimal.sign, powerText]

theorem head?_take {digits : List Char} {n : Nat} (h : (digits.take n).head? = some '0') :
    digits.head? = some '0' := by
  cases n with
  | zero => simp at h
  | succ n => cases digits <;> simp_all

theorem Numeral.proper_ofDecimal (l : Layout) (d : Decimal) : (Numeral.ofDecimal l d).Proper := by
  have positive := length_decimal_pos d.normal.digits
  have all (c : Char) (member : c ∈ decimal d.normal.digits) : isDigit c = true :=
    isDigit_of_mem_decimal member
  have zeros (n : Nat) (c : Char) (member : c ∈ List.replicate n '0') : isDigit c = true :=
    List.eq_of_mem_replicate member ▸ isDigit_zero
  have single := head?_decimal (n := d.normal.digits)
  rw [Numeral.ofDecimal]
  split
  · split
    · constructor
      · simp only [List.mem_append]
        exact fun c member => member.elim (all c) (zeros _ c)
      · simp [List.ne_nil_of_length_pos positive]
      · intro zero
        rw [List.head?_append_of_ne_nil _ (List.ne_nil_of_length_pos positive)] at zero
        -- Only zero has a zero in front, and then there are no zeros to add.
        obtain ⟨c, only⟩ := List.length_eq_one_iff.1 (single zero)
        have value := value_decimal d.normal.digits
        rw [only, List.head?_cons, Option.some.injEq] at zero
        rw [only, zero] at value
        simp [only, exponent_normal value.symm]
      · simp [isDigit_zero]
    · split
      · constructor
        · simp [isDigit_zero]
        · simp
        · simp
        · simp only [List.mem_append]
          exact fun c member => member.elim (zeros _ c) (all c)
      · constructor
        · exact fun c member => all c (List.mem_of_mem_take member)
        · exact List.ne_nil_of_length_pos (by rw [List.length_take]; omega)
        · intro zero
          have one := single (head?_take zero)
          rw [List.length_take]
          omega
        · exact fun c member => all c (List.mem_of_mem_drop member)
  · constructor
    · exact fun c member => all c (List.mem_of_mem_take member)
    · exact List.ne_nil_of_length_pos (by rw [List.length_take]; omega)
    · intro _
      rw [List.length_take]
      omega
    · exact fun c member => all c (List.mem_of_mem_drop member)

theorem Numeral.value_eq_real {n : Numeral} (shape : n.places ≠ [] ∨ n.power ≠ none) :
    n.value = .real ⟨n.negative, Text.value (n.whole ++ n.places),
      n.power.getD 0 - n.places.length⟩ := by
  rw [value, if_neg]
  rintro ⟨places, power, -⟩
  rcases shape with shape | shape
  · exact shape (List.isEmpty_iff.1 places)
  · exact shape (Option.isNone_iff_eq_none.1 power)

theorem Numeral.value_ofDecimal (l : Layout) (d : Decimal) :
    (Numeral.ofDecimal l d).value = .real (spelled l d) := by
  have positive := length_decimal_pos d.normal.digits
  have number := value_decimal d.normal.digits
  have zero : Text.value ['0'] = 0 := rfl
  -- Where nothing is added, the digits and the exponent have to be those of the decimal.
  have same {digits : Nat} {exponent : Int} (sameDigits : digits = d.normal.digits)
      (sameExponent : exponent = d.normal.exponent) :
      Json.real ⟨d.normal.negative, digits, exponent⟩ = .real d.normal := by
    rw [sameDigits, sameExponent]
  rw [Numeral.ofDecimal]
  split
  · rename_i near
    split
    · rename_i whole
      have spelling : spelled l d = ⟨_, _, _⟩ := if_pos ⟨near.1, near.2, whole⟩
      rw [spelling, Numeral.value_eq_real (.inl (by simp))]
      simp [value_append, number, value_zeros, zero, Nat.pow_succ]
    · rename_i fraction
      have spelling : spelled l d = d.normal := if_neg fun all => fraction all.2.2
      split
      · rename_i small
        rw [spelling, Numeral.value_eq_real (.inl (by simp [List.ne_nil_of_length_pos positive]))]
        refine same ?_ ?_
        · rw [value_append, value_append, value_zeros, number, zero]
          omega
        · simp only [List.length_append, List.length_replicate, Option.getD_none]
          omega
      · rename_i inside
        rw [spelling, Numeral.value_eq_real (.inl (List.ne_nil_of_length_pos (by
          rw [List.length_drop]; omega)))]
        refine same (by rw [List.take_append_drop, number]) ?_
        simp only [List.length_drop, Option.getD_none]
        omega
  · rename_i far
    have spelling : spelled l d = d.normal := if_neg fun all => far ⟨all.1, all.2.1⟩
    rw [spelling, Numeral.value_eq_real (.inr (by simp))]
    refine same (by rw [List.take_append_drop, number]) ?_
    simp only [List.length_drop, Option.getD_some]
    omega

end AccountStore.Json

import AccountStore.Text.Blank
import AccountStore.Text.Digits
import Mathlib.Data.List.Induction
import Mathlib.Data.List.TakeWhile
import Mathlib.Tactic.Positivity
import Mathlib.Tactic.Ring
import Mathlib.Tactic.ByContra

/-!
# Reading digits back

`takeNumber` takes the longest run of digits it is allowed, so a run is read back whole if no digit
follows it or if it is as long as a run may be (`takeNumber_append`). Digits of any number can be
cut or filled up to a width, which is what a fraction of a second needs (`value_append`).
-/

namespace AccountStore.Text

def NoDigitFirst (cs : List Char) : Prop :=
  ∀ c rest, cs = c :: rest → isDigit c = false

theorem noDigitFirst_nil : NoDigitFirst [] := by
  intro c rest eq
  cases eq

theorem noDigitFirst_cons {c : Char} {cs : List Char} (h : isDigit c = false) :
    NoDigitFirst (c :: cs) := by
  intro d rest eq
  cases eq
  exact h

theorem takeWhile_append {digits rest : List Char} (all : ∀ c ∈ digits, isDigit c = true)
    (apart : NoDigitFirst rest) : (digits ++ rest).takeWhile isDigit = digits := by
  rw [List.takeWhile_append_of_pos all]
  cases rest with
  | nil => simp
  | cons c rest => simp [apart c rest rfl]

theorem length_decimal_pos (n : Nat) : 0 < (decimal n).length := by
  rw [decimal]
  split <;> simp

theorem isDigit_zero : isDigit '0' = true := by decide

/-- No digit is white space. -/
theorem isBlank_of_isDigit {c : Char} (digit : isDigit c = true) : isBlank c = false := by
  simp only [isDigit, Bool.and_eq_true, decide_eq_true_eq] at digit
  simp [isBlank, Ranges.has, blankRanges]
  omega

theorem skipBlanks_cons {c : Char} (solid : isBlank c = false) (rest : List Char) :
    skipBlanks (c :: rest) = c :: rest := by
  simp [skipBlanks, solid]

/-! ## Numbers -/

section Numbers

variable {least most : Nat} {digits rest cs : List Char}

theorem takeNumber_append (all : ∀ c ∈ digits, isDigit c = true) (enough : least ≤ digits.length)
    (few : digits.length ≤ most) (apart : digits.length = most ∨ NoDigitFirst rest) :
    takeNumber least most (digits ++ rest) = some (value digits, rest) := by
  have run : ((digits ++ rest).take most).takeWhile isDigit = digits := by
    rcases apart with full | apart
    · rw [← full, List.take_left, List.takeWhile_eq_self_iff.2 all]
    · rw [List.take_append, List.take_of_length_le few]
      refine takeWhile_append all fun c tail shape => ?_
      cases rest with
      | nil => simp at shape
      | cons d rest =>
          cases room : most - digits.length with
          | zero => simp [room] at shape
          | succ n =>
              rw [room, List.take_succ_cons] at shape
              cases shape
              exact apart c rest rfl
  rw [takeNumber, run, if_neg (Nat.not_lt.2 enough), List.drop_left]

theorem takeNumber_padded (least width n : Nat) (small : n < 10 ^ width) (enough : least ≤ width)
    (rest : List Char) : takeNumber least width (padded width n ++ rest) = some (n, rest) := by
  have length := length_padded width n
  rw [takeNumber_append (fun c => isDigit_of_mem_padded) (by omega) (by omega) (.inl length),
    value_padded]
  exact congrArg (fun k => some (k, rest)) (Nat.mod_eq_of_lt small)

theorem readable_of_takeNumber {n : Nat} (read : takeNumber (least + 1) most cs = some (n, rest)) :
    takeNumber 1 most cs = some (n, rest) ∧ skipBlanks cs = cs ∧
      ∃ c tail, cs = c :: tail ∧ isDigit c = true := by
  simp only [takeNumber] at read
  split at read
  · cases read
  · rename_i long
    have nonempty : ¬((cs.take most).takeWhile isDigit).length < 1 := by omega
    refine ⟨by rw [takeNumber, if_neg nonempty, read], ?_⟩
    cases cs with
    | nil => simp at long
    | cons c tail =>
        cases most with
        | zero => simp at long
        | succ most =>
            have digit : isDigit c = true := by
              by_contra other
              simp [other] at long
            exact ⟨skipBlanks_cons (isBlank_of_isDigit digit) tail, c, tail, rfl, digit⟩

end Numbers

/-! ## Filling up and cutting -/

/-- A point and the digits after it, or nothing without digits. -/
def pointText : List Char → List Char
  | [] => []
  | places => '.' :: places

theorem value_append (before after : List Char) :
    value (before ++ after) = value before * 10 ^ after.length + value after := by
  induction after using List.reverseRecOn with
  | nil => simp [value]
  | append_singleton after last ih =>
      rw [← List.append_assoc, value_append_digit, value_append_digit, ih, List.length_append,
        List.length_singleton, Nat.pow_succ]
      ring

theorem value_zeros (n : Nat) : value (List.replicate n '0') = 0 := by
  induction n with
  | zero => rfl
  | succ n ih =>
      rw [List.replicate_succ', value_append_digit, ih]
      rfl

theorem value_lt {digits : List Char} (all : ∀ c ∈ digits, isDigit c = true) :
    value digits < 10 ^ digits.length := by
  induction digits using List.reverseRecOn with
  | nil => simp [value]
  | append_singleton digits last ih =>
      have before := ih fun c member => all c (by simp [member])
      have digit := all last (by simp)
      simp only [isDigit, Bool.and_eq_true, decide_eq_true_eq] at digit
      rw [value_append_digit, List.length_append, List.length_singleton, Nat.pow_succ, digitValue]
      omega

theorem value_take {digits : List Char} (all : ∀ c ∈ digits, isDigit c = true) (n : Nat) :
    value (digits.take n) = value digits / 10 ^ (digits.length - n) := by
  have split := value_append (digits.take n) (digits.drop n)
  have small : value (digits.drop n) < 10 ^ (digits.drop n).length :=
    value_lt fun c member => all c (List.mem_of_mem_drop member)
  rw [List.take_append_drop, List.length_drop] at split
  rw [List.length_drop] at small
  rw [split, Nat.mul_comm, Nat.mul_add_div (by positivity), Nat.div_eq_of_lt small, Nat.add_zero]

theorem isDigit_of_mem_paddedAtLeast {width n : Nat} {c : Char}
    (member : c ∈ paddedAtLeast width n) : isDigit c = true := by
  rcases List.mem_append.1 member with zero | inside
  · exact List.eq_of_mem_replicate zero ▸ isDigit_zero
  · exact isDigit_of_mem_decimal inside

theorem length_paddedAtLeast_pos (width n : Nat) : 0 < (paddedAtLeast width n).length := by
  have positive := length_decimal_pos n
  rw [paddedAtLeast, List.length_append]
  omega

theorem value_paddedAtLeast (width n : Nat) : value (paddedAtLeast width n) = n := by
  rw [paddedAtLeast, value_append, value_zeros, value_decimal, Nat.zero_mul, Nat.zero_add]

end AccountStore.Text

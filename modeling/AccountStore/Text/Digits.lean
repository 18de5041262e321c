/-!
Digits: writing a natural number and reading one back.

`value_decimal` says that the written decimal digits read back as the number, and `value_padded`
that leading zeros do not change it.
-/

namespace AccountStore.Text

def digitChar (d : Nat) : Char :=
  Char.ofNat (48 + d)

def digitValue (c : Char) : Nat :=
  c.toNat - 48

/-- The ASCII digits; no other digit is read anywhere. -/
def isDigit (c : Char) : Bool :=
  48 ≤ c.toNat && c.toNat ≤ 57

/-- The decimal digits of a number, without leading zeros. -/
def decimal (n : Nat) : List Char :=
  if n < 10 then [digitChar n] else decimal (n / 10) ++ [digitChar (n % 10)]

def hexDigit (n : Nat) : Char :=
  if n < 10 then Char.ofNat (48 + n) else Char.ofNat (87 + n)

/-- The lower-case hexadecimal digits of a number, without leading zeros. -/
def hexadecimal (n : Nat) : List Char :=
  if n < 16 then [hexDigit n] else hexadecimal (n / 16) ++ [hexDigit (n % 16)]

/-- The last `width` decimal digits of a number, with leading zeros. -/
def padded : (width n : Nat) → List Char
  | 0, _ => []
  | width + 1, n => padded width (n / 10) ++ [digitChar (n % 10)]

/-- The digits of a number, with leading zeros up to a least width. -/
def paddedAtLeast (width n : Nat) : List Char :=
  let digits := decimal n
  List.replicate (width - digits.length) '0' ++ digits

/-- The number that a digit sequence denotes. -/
def value (digits : List Char) : Nat :=
  digits.foldl (fun n c => 10 * n + digitValue c) 0

/-- An optional minus sign and the digits. -/
def signed (n : Int) : List Char :=
  if n < 0 then '-' :: decimal n.natAbs else decimal n.natAbs

/-- Reads a run of digits, at least `least` and at most `most` of them. -/
def takeNumber (least most : Nat) (cs : List Char) : Option (Nat × List Char) :=
  let digits := (cs.take most).takeWhile isDigit
  if digits.length < least then none else some (value digits, cs.drop digits.length)

/-- Reads a whole text of digits, after an optional plus sign, as a number below a bound. -/
def readUnsigned? (bound : Nat) (cs : List Char) : Option Nat :=
  let digits := match cs with
    | '+' :: rest => rest
    | _ => cs
  if !digits.isEmpty && digits.all isDigit && value digits < bound then some (value digits)
  else none

theorem digitValue_digitChar {d : Nat} (h : d < 10) : digitValue (digitChar d) = d := by
  have : ∀ d : Fin 10, digitValue (digitChar d) = d := by decide
  exact this ⟨d, h⟩

theorem isDigit_digitChar {d : Nat} (h : d < 10) : isDigit (digitChar d) = true := by
  have : ∀ d : Fin 10, isDigit (digitChar d) = true := by decide
  exact this ⟨d, h⟩

theorem value_append_digit (digits : List Char) (c : Char) :
    value (digits ++ [c]) = 10 * value digits + digitValue c := by
  simp [value]

theorem value_decimal (n : Nat) : value (decimal n) = n := by
  fun_induction decimal n with
  | case1 n small => simpa [value] using digitValue_digitChar small
  | case2 n large ih =>
      rw [value_append_digit, ih, digitValue_digitChar (Nat.mod_lt n (by omega))]
      omega

theorem value_padded (width n : Nat) : value (padded width n) = n % Nat.pow 10 width := by
  induction width generalizing n with
  | zero => simp [padded, value, Nat.mod_one]
  | succ width ih =>
      have power : Nat.pow 10 (width + 1) = 10 * Nat.pow 10 width := Nat.mul_comm _ 10
      rw [padded, value_append_digit, ih, digitValue_digitChar (Nat.mod_lt n (by omega)), power,
        Nat.mod_mul, Nat.add_comm]

theorem isDigit_of_mem_decimal {n : Nat} {c : Char} (member : c ∈ decimal n) :
    isDigit c = true := by
  fun_induction decimal n with
  | case1 n small => simp_all [isDigit_digitChar]
  | case2 n large ih =>
      rcases List.mem_append.1 member with before | last
      · exact ih before
      · rw [List.mem_singleton.1 last]
        exact isDigit_digitChar (Nat.mod_lt n (by omega))

theorem isDigit_of_mem_padded {width n : Nat} {c : Char} (member : c ∈ padded width n) :
    isDigit c = true := by
  induction width generalizing n with
  | zero => simp [padded] at member
  | succ width ih =>
      rcases List.mem_append.1 member with before | last
      · exact ih before
      · rw [List.mem_singleton.1 last]
        exact isDigit_digitChar (Nat.mod_lt n (by omega))

theorem length_padded (width n : Nat) : (padded width n).length = width := by
  induction width generalizing n with
  | zero => rfl
  | succ width ih => simp [padded, ih]

end AccountStore.Text

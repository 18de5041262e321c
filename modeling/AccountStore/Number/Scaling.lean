import AccountStore.Number.Binary

/-!
Reading decimals in the arithmetic of a binary format.

The leading digits, as many as a 64-bit number holds, are rounded to the format and then multiplied
or divided by a power of ten that is rounded too. Each step rounds to the nearest pattern, so the
result is the nearest one whenever the digits and the power are patterns themselves, and may be the
next one otherwise.
-/

namespace AccountStore.Number
namespace BinaryFormat

/-- The pattern nearest to `± m * 2 ^ q / n`. -/
def ofRatio (f : BinaryFormat) (negative : Bool) (m n : Nat) (q : Int) : Nat :=
  if 0 ≤ q then f.round negative (m * Nat.pow 2 q.toNat) n
  else f.round negative m (n * Nat.pow 2 q.natAbs)

/-- The pattern nearest to the product of two finite patterns, with the sign of the first. -/
def product (f : BinaryFormat) (a b : Nat) : Nat :=
  let (m, p) := f.magnitude a
  let (n, q) := f.magnitude b
  f.ofRatio (f.isNegative a) (m * n) 1 (p + q)

/-- The pattern nearest to the quotient of two finite patterns, with the sign of the first. -/
def quotient (f : BinaryFormat) (a b : Nat) : Nat :=
  let (m, p) := f.magnitude a
  let (n, q) := f.magnitude b
  f.ofRatio (f.isNegative a) m n (p - q)

/-- The pattern nearest to a power of ten. -/
def tenTo (f : BinaryFormat) (k : Nat) : Nat :=
  f.ofDecimal ⟨false, 1, k⟩

/-- The greatest power of ten in double precision. -/
def greatestPower : Nat := 308

/-- Divides a finite pattern by a power of ten, in steps if the power is too great for one. -/
def quotientByPower (f : BinaryFormat) (bits k : Nat) : Nat :=
  if k ≤ greatestPower then f.quotient bits (f.tenTo k)
  else if (f.magnitude bits).1 = 0 then bits
  else quotientByPower f (f.quotient bits (f.tenTo greatestPower)) (k - greatestPower)
termination_by k
decreasing_by
  have : 0 < greatestPower := by decide
  omega

/-- The leading digits of a number that fit in 64 bits, and how many are left out. -/
def leadingDigits (digits : Nat) : Nat × Nat :=
  if digits < UInt64.size then (digits, 0)
  else
    let (leading, rest) := leadingDigits (digits / 10)
    (leading, rest + 1)
termination_by digits
decreasing_by
  have : 0 < UInt64.size := by decide
  omega

/-- The pattern that a decimal is read as. -/
def readDecimal (f : BinaryFormat) (d : Decimal) : Nat :=
  let (digits, rest) := leadingDigits d.digits
  let exponent := d.exponent + rest
  let bits := f.round d.negative digits 1
  if exponent < 0 then f.quotientByPower bits exponent.natAbs
  else if digits = 0 then bits
  else if exponent.toNat ≤ greatestPower then f.product bits (f.tenTo exponent.toNat)
  else f.infinity d.negative

end BinaryFormat

example : binary64.readDecimal ⟨false, 1, -1⟩ = binary64.ofDecimal ⟨false, 1, -1⟩ ∧
    binary64.readDecimal ⟨true, 5, -324⟩ = binary64.ofDecimal ⟨true, 5, -324⟩ ∧
    binary64.readDecimal ⟨false, 1, -50⟩ = binary64.ofDecimal ⟨false, 1, -50⟩ - 1 ∧
    binary64.readDecimal ⟨true, 0, 5⟩ = 0x8000000000000000 := by decide +kernel

end AccountStore.Number

import AccountStore.Number.Decimal

/-!
Binary floating point numbers as bit patterns, and rounding to them.

A pattern holds a sign, an exponent and a fraction; a finite pattern denotes `± m * 2 ^ q` exactly.
`round` gives the pattern nearest to a fraction of two natural numbers; of two equally near ones it
takes the one with an even significand, and numbers beyond the largest become infinite.
-/

namespace AccountStore.Number

structure BinaryFormat where
  /-- The number of stored bits of the significand. -/
  fractionBits : Nat
  exponentBits : Nat

/-- Single precision, 32 bits. -/
def binary32 : BinaryFormat := ⟨23, 8⟩

/-- Double precision, 64 bits. -/
def binary64 : BinaryFormat := ⟨52, 11⟩

namespace BinaryFormat

/-- The exponent field of infinities and of patterns that are no numbers. -/
def topExponent (f : BinaryFormat) : Nat :=
  Nat.pow 2 f.exponentBits - 1

/-- The exponent of the last place of the smallest numbers. -/
def leastPlace (f : BinaryFormat) : Int :=
  2 - (Nat.pow 2 (f.exponentBits - 1) : Int) - f.fractionBits

def signBit (f : BinaryFormat) : Nat :=
  Nat.pow 2 (f.fractionBits + f.exponentBits)

def isNegative (f : BinaryFormat) (bits : Nat) : Bool :=
  f.signBit ≤ bits

def exponentField (f : BinaryFormat) (bits : Nat) : Nat :=
  bits / Nat.pow 2 f.fractionBits % Nat.pow 2 f.exponentBits

def isFinite (f : BinaryFormat) (bits : Nat) : Bool :=
  f.exponentField bits != f.topExponent

/-- The magnitude of a finite pattern: a significand and the exponent of its last place. -/
def magnitude (f : BinaryFormat) (bits : Nat) : Nat × Int :=
  let fraction := bits % Nat.pow 2 f.fractionBits
  match f.exponentField bits with
  | 0 => (fraction, f.leastPlace)
  | e + 1 => (Nat.pow 2 f.fractionBits + fraction, f.leastPlace + e)

def infinity (f : BinaryFormat) (negative : Bool) : Nat :=
  f.topExponent * Nat.pow 2 f.fractionBits + if negative then f.signBit else 0

/-- The pattern is no number: it lies beyond an infinity. -/
def isNaN (f : BinaryFormat) (bits : Nat) : Bool :=
  f.infinity false < bits % f.signBit

/-- The quotient rounded to a whole number, halves to the even neighbour. -/
def roundQuotient (num den : Nat) : Nat :=
  let quotient := num / den
  let twice := 2 * (num % den)
  if den < twice ∨ (twice = den ∧ quotient % 2 = 1) then quotient + 1 else quotient

/-- `num / den * 2 ^ (-place)` as a numerator and a denominator. -/
def scale (num den : Nat) (place : Int) : Nat × Nat :=
  if 0 ≤ place then (num, den * Nat.pow 2 place.toNat) else (num * Nat.pow 2 place.natAbs, den)

/-- The exponent of the greatest power of two that is at most `num / den`. -/
def floorLog2 (num den : Nat) : Int :=
  let guess : Int := (Nat.log2 num : Int) - Nat.log2 den
  let (n, d) := scale num den guess
  if d ≤ n then guess else guess - 1

/-- The pattern nearest to `± num / den`. -/
def round (f : BinaryFormat) (negative : Bool) (num den : Nat) : Nat :=
  let sign := if negative then f.signBit else 0
  if num = 0 then sign
  else
    let place := max (floorLog2 num den - f.fractionBits) f.leastPlace
    let (n, d) := scale num den place
    let significand := roundQuotient n d
    let hidden := Nat.pow 2 f.fractionBits
    let bits := if significand < hidden then significand
      else ((place - f.leastPlace).toNat + 1) * hidden + (significand - hidden)
    if f.topExponent * hidden ≤ bits then f.infinity negative else bits + sign

/-- The exponents of ten beyond which a decimal is infinite or zero in both formats. -/
def farPower : Int := 400

/-- The pattern nearest to a decimal. -/
def ofDecimal (f : BinaryFormat) (d : Decimal) : Nat :=
  let power := d.exponent + (Text.decimal d.digits).length
  if d.digits = 0 ∨ power < -farPower then f.round d.negative 0 1
  else if farPower < power then f.infinity d.negative
  else if 0 ≤ d.exponent then f.round d.negative (d.digits * Nat.pow 10 d.exponent.toNat) 1
  else f.round d.negative d.digits (Nat.pow 10 d.exponent.natAbs)

/-- The pattern nearest to a finite pattern of another format; infinities stay infinite. -/
def convert (f g : BinaryFormat) (bits : Nat) : Nat :=
  let negative := f.isNegative bits
  if f.isFinite bits then
    let (m, q) := f.magnitude bits
    if 0 ≤ q then g.round negative (m * Nat.pow 2 q.toNat) 1
    else g.round negative m (Nat.pow 2 q.natAbs)
  else g.infinity negative

end BinaryFormat

example : binary32.ofDecimal ⟨false, 15005, -1⟩ = 0x44BB9000 ∧
    binary32.ofDecimal ⟨true, 1, -1⟩ = 0xBDCCCCCD ∧
    binary32.ofDecimal ⟨false, 16777217, 0⟩ = 0x4B800000 ∧
    binary32.ofDecimal ⟨false, 1, 39⟩ = 0x7F800000 ∧
    binary32.ofDecimal ⟨false, 1, -45⟩ = 1 ∧ binary32.ofDecimal ⟨false, 1, -46⟩ = 0 ∧
    binary64.ofDecimal ⟨false, 1, -1⟩ = 0x3FB999999999999A := by decide +kernel

end AccountStore.Number

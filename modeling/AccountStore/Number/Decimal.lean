import AccountStore.Text.Digits

/-!
Decimal numbers, exact, and the ways they are written.

A decimal is a sign, a whole number of digits and a power of ten. `layout` writes it positionally
when its first digit stands close enough to the point and in scientific form otherwise; `plain`
always writes it positionally.
-/

namespace AccountStore.Number
open Text

/-- The number `± digits * 10 ^ exponent`. -/
structure Decimal where
  negative : Bool
  digits : Nat
  exponent : Int
deriving DecidableEq, Repr

/-- How decimals are written. -/
structure Layout where
  /-- The least exponent of the first digit that is still written positionally. -/
  least : Int
  /-- The greatest exponent of the first digit that is still written positionally. -/
  greatest : Int

namespace Decimal

/-- Moves trailing zeros of the digits into the exponent. -/
def trimZeros : (fuel : Nat) → (digits : Nat) → (exponent : Int) → Nat × Int
  | fuel + 1, digits, exponent =>
      if digits ≠ 0 ∧ digits % 10 = 0 then trimZeros fuel (digits / 10) (exponent + 1)
      else (digits, exponent)
  | 0, digits, exponent => (digits, exponent)

/-- The same number without trailing zeros in its digits; zero has exponent zero. -/
def normal (d : Decimal) : Decimal :=
  if d.digits = 0 then ⟨d.negative, 0, 0⟩
  else
    let (digits, exponent) := trimZeros (decimal d.digits).length d.digits d.exponent
    ⟨d.negative, digits, exponent⟩

def sign (d : Decimal) : List Char :=
  if d.negative then ['-'] else []

/-- Digits with the point placed after the digit of weight one; whole numbers end in `whole`. -/
def positional (digits : List Char) (exponent : Int) (whole : List Char) : List Char :=
  if 0 ≤ exponent then digits ++ List.replicate exponent.toNat '0' ++ whole
  else
    let places := exponent.natAbs
    if digits.length ≤ places then
      '0' :: '.' :: List.replicate (places - digits.length) '0' ++ digits
    else digits.take (digits.length - places) ++ '.' :: digits.drop (digits.length - places)

/-- One digit before the point and a signed exponent. -/
def scientific (digits : List Char) (exponent : Int) : List Char :=
  let power := exponent + (digits.length - 1 : Nat)
  digits.take 1 ++ (if digits.length ≤ 1 then [] else '.' :: digits.drop 1) ++
    'e' :: (if power < 0 then '-' else '+') :: decimal power.natAbs

/-- The number with at least one digit after the point or an exponent. -/
def layout (l : Layout) (d : Decimal) : String :=
  let n := d.normal
  let digits := decimal n.digits
  let power := n.exponent + (digits.length - 1 : Nat)
  String.ofList (n.sign ++
    if l.least ≤ power ∧ power ≤ l.greatest then positional digits n.exponent ['.', '0']
    else scientific digits n.exponent)

/-- The number written positionally, whole numbers without a point. -/
def plain (d : Decimal) : String :=
  let n := d.normal
  String.ofList (n.sign ++ positional (decimal n.digits) n.exponent [])

end Decimal

/-- Numbers of single precision are written positionally from 0.000001 to 9999999999999. -/
def Layout.single : Layout := ⟨-6, 12⟩

/-- Numbers of double precision are written positionally from 0.00001 to 9999999999999999. -/
def Layout.double : Layout := ⟨-5, 15⟩

example : (⟨false, 15005, -1⟩ : Decimal).layout .single = "1500.5" ∧
    (⟨true, 0, 3⟩ : Decimal).layout .single = "-0.0" ∧
    (⟨false, 1, 20⟩ : Decimal).layout .single = "1e+20" ∧
    (⟨false, 34028235, 31⟩ : Decimal).layout .single = "3.4028235e+38" ∧
    (⟨false, 10, -8⟩ : Decimal).layout .single = "1e-7" := by decide +kernel

example : (⟨false, 1, -7⟩ : Decimal).plain = "0.0000001" ∧ (⟨true, 0, 0⟩ : Decimal).plain = "-0" ∧
    (⟨false, 15005, -1⟩ : Decimal).plain = "1500.5" := by decide +kernel

end AccountStore.Number

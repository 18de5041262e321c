import AccountStore.Number.Binary

/-!
The shortest decimal of a binary floating point number: the fewest digits that read back as the
number, and of the decimals with that many digits the nearest. Of two equally near ones a tie rule
takes one.

For each count of digits there are at most two candidates, the neighbours of the number on the grid
of decimals with that many digits. A candidate is accepted if it lies in the interval of the reals
that round to the number; the interval's ends belong to it when the significand is even.
-/

namespace AccountStore.Number

/-- Which of two neighbours is taken for a number halfway between them. -/
inductive Tie where
  /-- The one with an even last digit. -/
  | even
  /-- The one that is farther from zero. -/
  | away
deriving DecidableEq, Repr

namespace BinaryFormat

/-- Compares `a * 10 ^ p` with `b * 2 ^ q` as natural numbers over a common denominator. -/
def crossed (a : Nat) (p : Int) (b : Nat) (q : Int) : Nat × Nat :=
  (a * Nat.pow 10 p.toNat * Nat.pow 2 (-q).toNat, b * Nat.pow 2 q.toNat * Nat.pow 10 (-p).toNat)

/-- The exponent of the first decimal digit of `m * 2 ^ q`, for a positive `m`. -/
def firstPower (m : Nat) (q : Int) : Int :=
  let (num, den) := if 0 ≤ q then (m * Nat.pow 2 q.toNat, 1) else (m, Nat.pow 2 q.natAbs)
  if den ≤ num then ((Text.decimal (num / den)).length : Int) - 1
  else .negOfNat (Text.decimal ((den + num - 1) / num - 1)).length

/-- The decimal `digits * 10 ^ p` rounds to `m * 2 ^ q`. -/
def readsBack (f : BinaryFormat) (m : Nat) (q : Int) (digits : Nat) (p : Int) : Bool :=
  let below := if m = Nat.pow 2 f.fractionBits ∧ f.leastPlace < q then 1 else 2
  let (candidate, lower) := crossed (4 * digits) p (4 * m - below) q
  let (_, upper) := crossed (4 * digits) p (4 * m + 2) q
  if m % 2 = 0 then lower ≤ candidate && candidate ≤ upper
  else lower < candidate && candidate < upper

/-- The accepted neighbour on the grid of decimals with `count` digits, the nearer of two. -/
def onGrid? (f : BinaryFormat) (tie : Tie) (m : Nat) (q : Int) (count : Nat) : Option (Nat × Int) :=
  let p := firstPower m q + 1 - count
  let (unit, whole) := crossed 1 p m q
  let below := whole / unit
  match f.readsBack m q below p, f.readsBack m q (below + 1) p with
  | true, true =>
      let past := 2 * (whole % unit)
      let isDown := past < unit || (past == unit && tie == .even && below % 2 == 0)
      some (if isDown then below else below + 1, p)
  | true, false => some (below, p)
  | false, true => some (below + 1, p)
  | false, false => none

/-- The shortest decimal of a finite pattern. Seventeen digits are enough for double precision. -/
def shortest (f : BinaryFormat) (tie : Tie) (bits : Nat) : Decimal :=
  let negative := f.isNegative bits
  let (m, q) := f.magnitude bits
  if m = 0 then ⟨negative, 0, 0⟩
  else match ((List.range 17).map (· + 1)).findSome? (f.onGrid? tie m q) with
    | some (digits, p) => (⟨negative, digits, p⟩ : Decimal).normal
    | none => ⟨negative, 0, 0⟩

example : binary32.shortest .even 0x44BB9000 = ⟨false, 15005, -1⟩ ∧
    binary32.shortest .even 1 = ⟨false, 1, -45⟩ ∧
    binary32.shortest .even 0x80000000 = ⟨true, 0, 0⟩ ∧
    binary32.shortest .even 0x7F7FFFFF = ⟨false, 34028235, 31⟩ ∧
    binary32.shortest .even 0x3EAAAAAB = ⟨false, 33333334, -8⟩ := by decide +kernel

example : binary32.shortest .even 0x4A000001 = ⟨false, 20971522, -1⟩ ∧
    binary32.shortest .away 0x4A000001 = ⟨false, 20971523, -1⟩ := by decide +kernel

example : binary64.shortest .even 0x3FB999999999999A = ⟨false, 1, -1⟩ ∧
    binary64.shortest .even 1 = ⟨false, 5, -324⟩ ∧
    binary64.shortest .even 0x7FEFFFFFFFFFFFFF = ⟨false, 17976931348623157, 292⟩ := by
  decide +kernel

end BinaryFormat
end AccountStore.Number

import AccountStore.Number.Scaling
import AccountStore.Number.Shortest

/-!
The two kinds of real numbers that columns hold: single and double precision, as bit patterns.

Two numbers are equal here when their patterns are; the sign of zero counts.
-/

namespace AccountStore.Number

/-- A number of single precision. -/
structure Real32 where
  bits : UInt32
deriving DecidableEq, Repr

/-- A number of double precision. -/
structure Real64 where
  bits : UInt64
deriving DecidableEq, Repr

namespace Real64

/-- The number that a decimal is read as. -/
def ofDecimal (d : Decimal) : Real64 :=
  ⟨.ofNat (binary64.readDecimal d)⟩

def isNegative (x : Real64) : Bool :=
  binary64.isNegative x.bits.toNat

/-- The shortest decimal that reads back as the number; none for an infinite one. -/
def decimal? (x : Real64) (tie : Tie) : Option Decimal :=
  if binary64.isFinite x.bits.toNat then some (binary64.shortest tie x.bits.toNat) else none

end Real64

namespace Real32

instance : Inhabited Real32 := ⟨⟨0⟩⟩

/-- Rounds a whole number. -/
def ofInt (n : Int) : Real32 :=
  ⟨.ofNat (binary32.round (n < 0) n.natAbs 1)⟩

/-- Narrows a number of double precision. -/
def ofReal64 (x : Real64) : Real32 :=
  ⟨.ofNat (binary64.convert binary32 x.bits.toNat)⟩

/-- Reads a decimal in double precision and narrows it. -/
def ofDecimal (d : Decimal) : Real32 :=
  ofReal64 (.ofDecimal d)

def toReal64 (x : Real32) : Real64 :=
  ⟨.ofNat (binary32.convert binary64 x.bits.toNat)⟩

def isNegative (x : Real32) : Bool :=
  binary32.isNegative x.bits.toNat

def isFinite (x : Real32) : Bool :=
  binary32.isFinite x.bits.toNat

def isNaN (x : Real32) : Bool :=
  binary32.isNaN x.bits.toNat

/-- The number is less than zero; minus zero is not, and neither is what is no number. -/
def isBelowZero (x : Real32) : Bool :=
  x.isNegative && x.bits != 0x80000000 && !x.isNaN

/-- The number without the sign of a zero. -/
def dropZeroSign (x : Real32) : Real32 :=
  if x.bits = 0x80000000 then ⟨0⟩ else x

/-- The shortest decimal that reads back as the number; none for an infinite one. -/
def decimal? (x : Real32) (tie : Tie) : Option Decimal :=
  if x.isFinite then some (binary32.shortest tie x.bits.toNat) else none

end Real32

/-- The positional text of a number, `inf` or `-inf` for an infinite one. -/
def plainText (decimal : Option Decimal) (negative : Bool) : String :=
  match decimal with
  | some d => d.plain
  | none => if negative then "-inf" else "inf"

example :
    (Real32.ofDecimal ⟨true, 1, -1⟩).toReal64.decimal? .even =
      some ⟨true, 10000000149011612, -17⟩ := by
  decide +kernel

end AccountStore.Number

/-!
Double-precision numbers, held as the bits of their encoding. Every question about size is answered
by one integer, the number of units of `2 ^ (-1074)` in the value: a unit is the least positive double, so
each finite value is a whole number of them. Infinities get the integer that their exponent
would give, which is above every finite value, so one comparison of integers orders all but NaN. -/

namespace FilterQuery

/-- A double-precision number, as the 64 bits of its encoding. -/
structure Double where
  bits : UInt64
deriving DecidableEq

namespace Double

/-- The number of doubles from one power of two up to the next, two to the 52nd. -/
def fractionCount : Nat := 0x10000000000000

/-- The bit that makes a number negative, the 63rd. -/
def signBit : Nat := 0x8000000000000000

/-- The bits of positive infinity: eleven ones above fifty-two zeros. -/
def infinityBits : Nat := 0x7ff0000000000000

/-- The sign bit: zero and NaN have one as well. -/
def isNegative (x : Double) : Bool :=
  signBit ≤ x.bits.toNat

def exponentField (x : Double) : Nat :=
  x.bits.toNat / fractionCount % 2048

def fractionField (x : Double) : Nat :=
  x.bits.toNat % fractionCount

/-- All ones in the exponent and something below it. -/
def isNaN (x : Double) : Bool :=
  x.exponentField == 2047 && x.fractionField != 0

/-- All ones in the exponent and nothing below it. -/
def isInfinite (x : Double) : Bool :=
  x.exponentField == 2047 && x.fractionField == 0

def isFinite (x : Double) : Bool :=
  x.exponentField != 2047

/-- The size of the value in units of `2 ^ (-1074)`: a normal number has a leading one above its fraction, and
each step of the exponent doubles it. -/
def magnitude (x : Double) : Nat :=
  if x.exponentField = 0 then x.fractionField
  else (fractionCount + x.fractionField) * Nat.pow 2 (x.exponentField - 1)

/-- The value in units of `2 ^ (-1074)`. -/
def units (x : Double) : Int :=
  if x.isNegative then -(x.magnitude : Int) else x.magnitude

/-- The order of two numbers by value; NaN is ordered with nothing. -/
def compare? (x y : Double) : Option Ordering :=
  if x.isNaN || y.isNaN then none else some (compare x.units y.units)

/-- Equality of values: the two zeros are equal and NaN is not equal to itself. -/
def equal (x y : Double) : Bool :=
  x.compare? y == some .eq

def abs (x : Double) : Double :=
  ⟨UInt64.ofNat (x.bits.toNat % signBit)⟩

/-- The number with the given sign and the given exponent and fraction bits. -/
def ofFields (negative : Bool) (low : Nat) : Double :=
  ⟨UInt64.ofNat (low + if negative then signBit else 0)⟩

def infinity (negative : Bool) : Double :=
  ofFields negative infinityBits

def nan : Double :=
  ofFields false (infinityBits + fractionCount / 2)

end Double

end FilterQuery

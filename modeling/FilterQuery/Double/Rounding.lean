import FilterQuery.Double.Basic

/-!
The nearest double to a rational number. A quotient is cut to the fifty-three binary digits that a double
holds, or to a multiple of the least unit where it is small; a value halfway between two neighbours goes to
the one with an even last digit, and what lies above the range becomes infinity. Integers and decimal
numerals are read through this one function. -/

namespace FilterQuery

/-- The quotient rounded to the nearest integer, a half going to the even one. -/
def roundHalfEven (num den : Nat) : Nat :=
  let q := num / den
  let r := num % den
  if 2 * r < den then q
  else if den < 2 * r then q + 1
  else if q % 2 = 0 then q
  else q + 1

/-- The exponent `e` with `2 ^ e ≤ num / den < 2 ^ (e + 1)`, for positive arguments: the lengths of both numbers
leave two candidates. -/
def floorLog2 (num den : Nat) : Int :=
  let e : Int := (num.log2 : Int) - den.log2
  if den * Nat.pow 2 e.toNat ≤ num * Nat.pow 2 (-e).toNat then e else e - 1

namespace Double

/-- The nearest double to `num / den`, with a given sign. The bits of a positive double, read as an integer,
count the doubles below it, so a significand that rounds up to the next power of two carries into the
exponent by itself. -/
def ofRatio (negative : Bool) (num den : Nat) : Double :=
  if num = 0 then ofFields negative 0
  else
    let q : Int := max (floorLog2 num den - 52) (-1074)
    let m := roundHalfEven (num * Nat.pow 2 (-q).toNat) (den * Nat.pow 2 q.toNat)
    let low := (q + 1074).toNat * fractionCount + m
    if infinityBits ≤ low then infinity negative else ofFields negative low

def ofInt (n : Int) : Double :=
  ofRatio (n < 0) n.natAbs 1

/-- The nearest double to `coefficient * 10 ^ exponent`. Exponents so far out that the result is
infinite or zero whatever the coefficient are answered without forming the power. -/
def ofDecimal (negative : Bool) (coefficient : Nat) (exponent : Int) : Double :=
  if coefficient = 0 then ofFields negative 0
  else if 400 < exponent then infinity negative
  else if exponent < -(400 + (coefficient.log2 : Int)) then ofFields negative 0
  else ofRatio negative (coefficient * Nat.pow 10 exponent.toNat) (Nat.pow 10 (-exponent).toNat)

/-! ### Arithmetic on finite doubles -/

def neg (x : Double) : Double :=
  ofFields (!x.isNegative) x.abs.bits.toNat

/-- The rounded product: two sizes in units of `2 ^ (-1074)` are multiplied to one in units of `2 ^ (-2148)`. -/
def mul (x y : Double) : Double :=
  ofRatio (x.isNegative != y.isNegative) (x.magnitude * y.magnitude) (Nat.pow 2 2148)

/-- The rounded quotient by a divisor that is not zero. -/
def div (x y : Double) : Double :=
  ofRatio (x.isNegative != y.isNegative) x.magnitude y.magnitude

end Double

end FilterQuery

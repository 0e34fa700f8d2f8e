import FilterQuery.Double.Numeral

/-!
Numbers of JSON. A number written as an integer that a 64-bit word holds is that integer. Any other becomes a double in two
roundings: as many of its digits as a word holds are rounded to a double, and that is multiplied or divided by a power of ten. So a
long number may miss the nearest double, and one just below the end of the range may be refused. -/

namespace FilterQuery.Json

/-- A number as JSON means it: an integer where it is written as one and a 64-bit word holds it. -/
inductive Number
  | integer (n : Int)
  | float (x : Double)
deriving DecidableEq

namespace Number

/-- Appends digits to a word until one does not fit; what comes with the word is how many digits are left out. -/
def appendDigits (word : Nat) : List Char → Nat × Nat
  | [] => (word, 0)
  | c :: digits =>
    let longer := Nat.ofDigitChars 10 [c] word
    if longer < UInt64.size then appendDigits longer digits else (word, digits.length + 1)

/-- The digits that are used, and the power of ten that they are multiplied by. When a digit before the point is left out,
those behind the point are still tried. -/
def parts (n : Numeral) : Nat × Int :=
  let (whole, wholeLeft) := appendDigits 0 n.whole
  let (significand, fractionLeft) := appendDigits whole (n.fraction.getD [])
  (significand, n.scale + (wholeLeft + fractionLeft : Nat))

/-- The greatest power of ten that is a double. -/
def maxPower : Nat := 308

def powerOfTen (e : Nat) : Double :=
  Double.ofDecimal false 1 e

/-- A double times a power of ten, where that is in range. -/
def scaleUp (x : Double) (e : Nat) : Option Double :=
  if e ≤ maxPower then
    let y := x.mul (powerOfTen e)
    if y.isInfinite then none else some y
  else if x.magnitude = 0 then some x
  else none

/-- A double divided by a power of ten, in several steps where the power itself is out of range. -/
def scaleDown (x : Double) (e : Nat) : Double :=
  if e ≤ maxPower then x.div (powerOfTen e)
  else if x.magnitude = 0 then x
  else scaleDown (x.div (powerOfTen maxPower)) (e - maxPower)
termination_by e
decreasing_by
  unfold maxPower at *
  omega

/-- The double made of digits and a power of ten, unless it is out of range. -/
def ofParts? (significand : Nat) (exponent : Int) : Option Double :=
  let x := Double.ofInt significand
  if 0 ≤ exponent then scaleUp x exponent.toNat else some (scaleDown x (-exponent).toNat)

/-- The double that a numeral stands for, unless it is out of range. -/
def toDouble? (n : Numeral) : Option Double :=
  let (significand, exponent) := parts n
  (ofParts? significand exponent).map fun x => if n.negative then x.neg else x

/-- The number that a numeral stands for; one beyond the range of doubles stands for none. The integers run from the
least signed to the greatest unsigned 64-bit word, and `-0` is not one of them. -/
def ofNumeral? (n : Numeral) : Option Number :=
  let fits := if n.negative then n.coefficient != 0 && n.coefficient ≤ Nat.pow 2 63 else n.coefficient < Nat.pow 2 64
  if n.isInteger && fits then some (.integer n.toInt)
  else (toDouble? n).map .float

end Number

end FilterQuery.Json

import FilterQuery.Double.Rounding

/-!
The shortest decimal that reads back as a given double. For one digit, then two, and so on to seventeen, the two
decimals of that length around the value are tried; the first length at which one of them reads back wins, and of
two that do the nearer is taken. Seventeen digits always suffice, so the search never runs dry. -/

namespace FilterQuery

/-- A positive decimal `coefficient * 10 ^ exponent`. -/
structure Decimal where
  coefficient : Nat
  exponent : Int
deriving DecidableEq

/-- Which of two equally near decimals is taken. -/
inductive Tie
  /-- The one whose last digit is even. -/
  | toEven
  /-- The one further from zero. -/
  | away

namespace Decimal

/-- The exponent `e` with `10 ^ e ≤ num / den < 10 ^ (e + 1)`, for positive arguments: the binary logarithm times
`log 2` is off by one at most. -/
def floorLog10 (num den : Nat) : Int :=
  let guess := floorLog2 num den * 30103 / 100000
  let reaches (e : Int) : Bool := den * Nat.pow 10 e.toNat ≤ num * Nat.pow 10 (-e).toNat
  if reaches (guess + 1) then guess + 1
  else if reaches guess then guess
  else guess - 1

/-- The same number with no zero at the end of its coefficient; `steps` bounds the zeros removed. -/
def trim : Nat → Decimal → Decimal
  | 0, d => d
  | steps + 1, d =>
    if d.coefficient % 10 = 0 then trim steps ⟨d.coefficient / 10, d.exponent + 1⟩ else d

def digits (d : Decimal) : List Char :=
  Nat.toDigits 10 d.coefficient

/-- The power of ten at which the first digit stands. -/
def leading (d : Decimal) : Int :=
  d.exponent + d.digits.length - 1

/-- Whether the nearest double to the decimal is `x`. -/
def readsAs (d : Decimal) (x : Double) : Bool :=
  Double.ofDecimal false d.coefficient d.exponent == x

/-- The decimal with last digit at `10 ^ exponent` that is next to `num / den` and reads back as `x`, if one of the two
neighbours does. -/
def neighbour? (tie : Tie) (x : Double) (num den : Nat) (exponent : Int) : Option Decimal :=
  let n := num * Nat.pow 10 (-exponent).toNat
  let d := den * Nat.pow 10 exponent.toNat
  let low := n / d
  let twice := 2 * (n % d)
  let below : Decimal := ⟨low, exponent⟩
  let above : Decimal := ⟨low + 1, exponent⟩
  let preferAbove :=
    d < twice || (twice == d && match tie with
      | .toEven => low % 2 != 0
      | .away => true)
  match below.readsAs x, above.readsAs x with
  | true, true => some (if preferAbove then above else below)
  | true, false => some below
  | false, true => some above
  | false, false => none

end Decimal

namespace Double

/-- The shortest decimal that reads back as the absolute value of a finite number other than zero. -/
def shortest (tie : Tie) (x : Double) : Decimal :=
  let num := x.magnitude
  let den := Nat.pow 2 1074
  let top := Decimal.floorLog10 num den
  let found := (List.range 17).findSome? fun (n : Nat) => Decimal.neighbour? tie x.abs num den (top - n)
  Decimal.trim 17 (found.getD ⟨0, 0⟩)

end Double

end FilterQuery

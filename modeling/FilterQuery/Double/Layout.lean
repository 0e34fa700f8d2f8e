import FilterQuery.Double.Shortest

/-!
Ways to write a double. All of them use the shortest digits that read back; a layout says which numbers are written
without an exponent, how a whole number ends, and what stands for the values that have no digits. -/

namespace FilterQuery

/-- The choices of a written form for doubles. -/
structure DoubleLayout where
  /-- The powers of ten of the first digit, least and one past the greatest, for which no exponent is written; `none` for all. -/
  positional : Option (Int × Int)
  /-- What follows a whole number. -/
  wholeEnd : List Char
  /-- Which of two equally near shortest decimals is written. -/
  tie : Tie
  /-- What stands for NaN. -/
  nan : List Char
  /-- What stands for an infinity of a given sign. -/
  infinity : Bool → List Char

namespace DoubleLayout

/-- The decimal without an exponent: zeros fill the places between its digits and the point. -/
def writePositional (layout : DoubleLayout) (d : Decimal) : List Char :=
  let digits := d.digits
  if 0 ≤ d.exponent then
    digits ++ List.replicate d.exponent.toNat '0' ++ layout.wholeEnd
  else
    let places := (-d.exponent).toNat
    let padded := List.replicate (places + 1 - digits.length) '0' ++ digits
    padded.take (padded.length - places) ++ '.' :: padded.drop (padded.length - places)

/-- The decimal with one digit before the point and a signed exponent. -/
def writeScientific (d : Decimal) : List Char :=
  let mark := if d.leading < 0 then '-' else '+'
  let exponent := 'e' :: mark :: Nat.toDigits 10 d.leading.natAbs
  match d.digits with
  | [] => exponent
  | [digit] => digit :: exponent
  | digit :: rest => digit :: '.' :: rest ++ exponent

def writeFinite (layout : DoubleLayout) (x : Double) : List Char :=
  if x.magnitude = 0 then '0' :: layout.wholeEnd
  else
    let d := x.shortest layout.tie
    match layout.positional with
    | none => layout.writePositional d
    | some (least, limit) =>
      if least ≤ d.leading ∧ d.leading < limit then layout.writePositional d else writeScientific d

def write (layout : DoubleLayout) (x : Double) : List Char :=
  if x.isNaN then layout.nan
  else if x.isInfinite then layout.infinity x.isNegative
  else if x.isNegative then '-' :: layout.writeFinite x
  else layout.writeFinite x

/-- Numbers as they stand in JSON: a whole number keeps `.0`, an exponent appears from `10 ^ 16` on and below `10 ^ (-5)`,
and what is not a number is `null`. -/
def json : DoubleLayout where
  positional := some (-5, 16)
  wholeEnd := ['.', '0']
  tie := .toEven
  nan := ['n', 'u', 'l', 'l']
  infinity _ := ['n', 'u', 'l', 'l']

/-- Numbers as they are shown to a reader: never an exponent, and nothing after a whole number. -/
def plain : DoubleLayout where
  positional := none
  wholeEnd := []
  tie := .away
  nan := ['N', 'a', 'N']
  infinity negative := (if negative then ['-'] else []) ++ ['i', 'n', 'f']

end DoubleLayout

end FilterQuery

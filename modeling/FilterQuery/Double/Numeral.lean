import FilterQuery.Double.Rounding

/-!
Numbers written in decimal digits. A numeral keeps the digits as they stand, so that a reader can
still tell an integer from a fraction; its value is exact, and rounding happens once, on the way to a double. -/

namespace FilterQuery

/-- A decimal numeral: a sign, digits before the point, digits after it where there is one, and an
exponent where there is one. -/
structure Numeral where
  negative : Bool
  whole : List Char
  fraction : Option (List Char)
  /-- Whether the exponent is negative, and its digits. -/
  exponent : Option (Bool × List Char)
deriving DecidableEq

namespace Numeral

def isInteger (n : Numeral) : Bool :=
  n.fraction.isNone && n.exponent.isNone

def coefficient (n : Numeral) : Nat :=
  Nat.ofDigitChars 10 (n.whole ++ n.fraction.getD []) 0

/-- The power of ten that the coefficient is multiplied by. -/
def scale (n : Numeral) : Int :=
  let power : Int := match n.exponent with
    | none => 0
    | some (true, digits) => -(Nat.ofDigitChars 10 digits 0 : Int)
    | some (false, digits) => Nat.ofDigitChars 10 digits 0
  power - (n.fraction.getD []).length

def toDouble (n : Numeral) : Double :=
  Double.ofDecimal n.negative n.coefficient n.scale

def toInt (n : Numeral) : Int :=
  if n.negative then -(n.coefficient : Int) else n.coefficient

/-- The digits after an exponent mark, with an optional sign, when nothing else follows. -/
def readExponent (s : List Char) : Option (Bool × List Char) :=
  let (negative, digits) := match s with
    | '-' :: r => (true, r)
    | '+' :: r => (false, r)
    | r => (false, r)
  if !digits.isEmpty && digits.all Char.isDigit then some (negative, digits) else none

/-- The digits before the point, the digits after it, and the exponent, when at least one digit stands before or after the
point and nothing else follows. -/
def readUnsigned (negative : Bool) (s : List Char) : Option Numeral :=
  let whole := s.takeWhile Char.isDigit
  let afterWhole := s.dropWhile Char.isDigit
  let (fraction, rest) := match afterWhole with
    | '.' :: r => (some (r.takeWhile Char.isDigit), r.dropWhile Char.isDigit)
    | r => (none, r)
  if whole.isEmpty && (fraction.getD []).isEmpty then none
  else match rest with
    | [] => some ⟨negative, whole, fraction, none⟩
    | mark :: r =>
      if mark = 'e' ∨ mark = 'E' then
        (readExponent r).map fun e => ⟨negative, whole, fraction, some e⟩
      else none

end Numeral

inductive DoubleText
  /-- A numeral, which has a finite value even where no finite double is near it. -/
  | numeral (n : Numeral)
  /-- The name of an infinity. -/
  | infinity (negative : Bool)
  /-- The name of NaN. -/
  | nan

namespace DoubleText

/-- What stands after the sign: a name in any letter case, or a numeral. -/
def readUnsigned (negative : Bool) (s : List Char) : Option DoubleText :=
  let name := s.map Char.toLower
  if name = ['i', 'n', 'f'] ∨ name = ['i', 'n', 'f', 'i', 'n', 'i', 't', 'y'] then some (infinity negative)
  else if name = ['n', 'a', 'n'] then some nan
  else (Numeral.readUnsigned negative s).map numeral

/-- A whole text: at most one sign, then a name or a numeral, and nothing around them. -/
def read : List Char → Option DoubleText
  | '-' :: s => readUnsigned true s
  | '+' :: s => readUnsigned false s
  | s => readUnsigned false s

def toDouble : DoubleText → Double
  | numeral n => n.toDouble
  | infinity negative => Double.infinity negative
  | nan => Double.nan

end DoubleText

end FilterQuery

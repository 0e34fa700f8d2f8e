/-!
Unsigned words of 64 bits in decimal digits. The digits are taken in one by one, and the reading stops where the product by ten or
the sum with the digit is too great for a word, so a number is read or refused, and never wraps around. -/

namespace FilterQuery.Text

def isDigitByte (b : UInt8) : Bool :=
  48 ≤ b.toNat && b.toNat ≤ 57

def mulWord? (m n : UInt64) : Option UInt64 :=
  if m.toNat * n.toNat < UInt64.size then some (m * n) else none

def addWord? (m n : UInt64) : Option UInt64 :=
  if m.toNat + n.toNat < UInt64.size then some (m + n) else none

/-- The word with one more digit behind it. -/
def pushDigit? (n : UInt64) (b : UInt8) : Option UInt64 :=
  if isDigitByte b then (mulWord? n 10).bind fun tens => addWord? tens (b.toUInt64 - 48) else none

/-- The word that the bytes of a text stand for: at least one digit, and a plus sign before them if there is one. -/
def readWord? (bytes : List UInt8) : Option UInt64 :=
  let digits := if bytes.head? = some 43 then bytes.tail else bytes
  if digits.isEmpty then none else digits.foldlM pushDigit? 0

end FilterQuery.Text

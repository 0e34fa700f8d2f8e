import FilterQuery.Double.Layout
import FilterQuery.Text.Order

/-!
Values: the literals of a filter, the arguments bound to a statement, and the cells of a decoded row. Scalars of compatible kinds are
ordered; lists only hold the arguments of a membership test. -/

namespace FilterQuery

inductive Value
  | bool (b : Bool)
  | int (n : Int64)
  | float (x : Double)
  | str (s : String)
  | list (items : List Value)

namespace Value

def isList : Value → Bool
  | list _ => true
  | _ => false

def toDouble? : Value → Option Double
  | int n => some (Double.ofInt n.toInt)
  | float x => some x
  | _ => none

/-- The order of two scalars of compatible kinds: integers and doubles by their values as doubles, strings by their bytes,
and false before true. All else is not ordered. -/
def compare? : Value → Value → Option Ordering
  | int a, int b => some (compare a.toInt b.toInt)
  | str a, str b => some (Text.byteOrder a b)
  | bool a, bool b => some (compare a b)
  | a, b =>
    match a.toDouble?, b.toDouble? with
    | some x, some y => x.compare? y
    | _, _ => none

mutual

/-- Equality of kind and content; doubles are compared by value. -/
def equal : Value → Value → Bool
  | bool a, bool b => a == b
  | int a, int b => a == b
  | float a, float b => a.equal b
  | str a, str b => a == b
  | list a, list b => equalAll a b
  | _, _ => false

def equalAll : List Value → List Value → Bool
  | [], [] => true
  | a :: as, b :: bs => a.equal b && equalAll as bs
  | _, _ => false

end

def writeInt (n : Int) : List Char :=
  if n < 0 then '-' :: Nat.toDigits 10 n.natAbs else Nat.toDigits 10 n.natAbs

mutual

/-- The value as it is shown to a reader: strings without quotes, lists in brackets. -/
def write : Value → List Char
  | bool true => ['t', 'r', 'u', 'e']
  | bool false => ['f', 'a', 'l', 's', 'e']
  | int n => writeInt n.toInt
  | float x => DoubleLayout.plain.write x
  | str s => s.toList
  | list items => '[' :: writeAll items ++ [']']

def writeAll : List Value → List Char
  | [] => []
  | [v] => v.write
  | v :: w :: vs => v.write ++ ',' :: ' ' :: writeAll (w :: vs)

end

def display (v : Value) : String :=
  String.ofList v.write

end Value

end FilterQuery

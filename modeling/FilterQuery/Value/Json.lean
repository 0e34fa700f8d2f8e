import FilterQuery.Json.Read
import FilterQuery.Json.Write
import FilterQuery.Value.Basic

/-!
Values in JSON. Booleans, numbers, strings and arrays stand for themselves; `null` and objects stand for no value, at any
depth. A number is an integer where it is written as one and fits into a signed 64-bit word. -/

namespace FilterQuery.Value

/-- An integer of JSON: one beyond the signed 64-bit range is taken as a double. -/
def ofInteger (n : Int) : Value :=
  if Int64.minValue.toInt ≤ n ∧ n ≤ Int64.maxValue.toInt then int (Int64.ofInt n) else float (Double.ofInt n)

mutual

def ofDoc? : Json.Doc → Option Value
  | .bool b => some (bool b)
  | .number n =>
    match Json.Number.ofNumeral? n with
    | some (.integer i) => some (ofInteger i)
    | some (.float x) => some (float x)
    | none => none
  | .string s => s.map str
  | .array items _ => (ofDocs? items).map list
  | _ => none

/-- The values that documents stand for, if all of them stand for one. -/
def ofDocs? : List Json.Doc → Option (List Value)
  | [] => some []
  | d :: ds =>
    match ofDoc? d, ofDocs? ds with
    | some v, some vs => some (v :: vs)
    | _, _ => none

end

/-- Reads a value that may nest so many levels deep. The whole of it is read before it is judged. -/
def read (levels : Nat) : Json.Reader Value := fun d =>
  if d.isReadable levels then
    match ofDoc? d with
    | some v => .ok v
    | none => .error (.noVariant "Value")
  else .error .malformed

def ofJson (text : String) : Except Json.Fault Value :=
  Json.read (read Json.maxDepth) text

mutual

def toJson : Value → Json.Tree
  | bool b => .bool b
  | int n => .number (writeInt n.toInt)
  | float x => .number (DoubleLayout.json.write x)
  | str s => .string s
  | list items => .array (toJsonAll items)

def toJsonAll : List Value → List Json.Tree
  | [] => []
  | v :: vs => v.toJson :: toJsonAll vs

end

end FilterQuery.Value

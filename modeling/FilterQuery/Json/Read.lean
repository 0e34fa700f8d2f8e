import FilterQuery.Json.Doc
import FilterQuery.Json.Fault
import FilterQuery.Json.Number

/-!
Reading typed content out of a document. A reader takes a document and answers a value or the first fault that it meets.
Readers that go into arrays and objects carry the number of levels that may still be entered. -/

namespace FilterQuery.Json

abbrev Reader (α : Type) := Doc → Except Fault α

/-- How many arrays and objects may stand inside one another. -/
def maxDepth : Nat := 127

namespace Doc

def found : Reader Found
  | .null => .ok .null
  | .bool b => .ok (.bool b)
  | .number n =>
    match Number.ofNumeral? n with
    | some (.integer n) => .ok (.integer n)
    | some (.float x) => .ok (.float x)
    | none => .error .malformed
  | .string (some s) => .ok (.string s)
  | .string none => .error .malformed
  | .array .. => .ok .sequence
  | .object .. => .ok .map
  | .broken => .error .malformed

/-- The failure of a reader that expected something else. -/
def wrongKind (expected : String) (d : Doc) : Except Fault α :=
  d.found.bind fun f => .error (.wrongKind f expected)

def readString : Reader String
  | .string (some s) => .ok s
  | d => d.wrongKind "a string"

def readBool : Reader Bool
  | .bool b => .ok b
  | d => d.wrongKind "a boolean"

/-- An integer from zero to `max`; `expected` names that range. -/
def readNat (max : Nat) (expected : String) : Reader Nat
  | .number n =>
    match Number.ofNumeral? n with
    | some (.integer i) => if 0 ≤ i ∧ i ≤ max then .ok i.toNat else .error (.outOfRange i expected)
    | _ => (Doc.number n).wrongKind expected
  | d => d.wrongKind expected

/-- `null`, or what the reader reads. -/
def readOption (read : Reader α) : Reader (Option α)
  | .null => .ok none
  | d => (read d).map some

def readMemberName (d : Doc) : Except Fault String :=
  match d.name? with
  | some s => .ok s
  | none => .error .malformed

/-- Nothing is wrong with the content of a part that is read and kept: it is whole, its strings are text, its numbers
are in range, and it nests no deeper than the levels left. -/
def isReadable : Nat → Doc → Bool
  | _, .null => true
  | _, .bool _ => true
  | _, .number n => (Number.ofNumeral? n).isSome
  | _, .string s => s.isSome
  | levels + 1, .array items closed => closed && items.all (isReadable levels)
  | levels + 1, .object members closed =>
    closed && members.all fun m => m.1.name?.isSome && isReadable levels m.2
  | _, _ => false

/-- A part that is skipped only has to be whole. -/
def skip (d : Doc) : Except Fault Unit :=
  if d.isWellFormed then .ok () else .error .malformed

/-- One level further in, where one is left. -/
def enter : Nat → Except Fault Nat
  | 0 => .error .malformed
  | levels + 1 => .ok levels

/-- The end of an array or object: what follows its last item or member must be its closing bracket. -/
def close (closed : Bool) : Except Fault Unit :=
  if closed then .ok () else .error .malformed

end Doc

/-- Reads a whole text: after the document nothing but white space may follow, which is looked at last. -/
def read (reader : Reader α) (text : String) : Except Fault α := do
  let (doc, atEnd) := Doc.ofText text.toList
  let a ← reader doc
  Doc.close atEnd
  return a

end FilterQuery.Json

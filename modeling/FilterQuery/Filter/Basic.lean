import FilterQuery.Failure
import FilterQuery.Value.Basic

/-!
Filters. A filter is a tree whose leaves test one column each and whose groups join their parts by AND or OR. Anything can be
built; whether a group has parts and a value fits its operator is checked where the filter is used. -/

namespace FilterQuery

structure Test where
  field : String
  operator : Operator
  value : Option Value

inductive Filter
  | test (t : Test)
  | group (k : Connective) (parts : List Filter)

/-- The way down to a node: at each step the group and the index of the part. -/
abbrev Place := List (Connective × Nat)

namespace Test

/-- Whether the value fits the operator: tests for null take none, all others need one, and lists belong to IN alone,
where an empty one counts as missing. -/
def check (t : Test) : Except Failure Unit :=
  match t.value, t.operator.needsValue with
  | some _, false => .error (.surplusValue t.field t.operator)
  | none, true => .error (.missingValue t.field t.operator)
  | none, false => .ok ()
  | some (.list items), true =>
    if t.operator ≠ .isIn then .error (.unfitValue t.field t.operator .listOutsideIn)
    else if items.isEmpty then .error (.missingValue t.field t.operator)
    else if items.any Value.isList then .error (.unfitValue t.field t.operator .nestedList)
    else .ok ()
  | some _, true => .ok ()

/-- The values that the operator compares with, in order; one value counts as a list of one. -/
def arguments (t : Test) : List Value :=
  match t.value with
  | none => []
  | some (.list items) => items
  | some v => [v]

end Test

namespace Filter

/-- A group must have parts; they are not looked into. -/
def checkShape : Filter → Except Failure Unit
  | group k [] => .error (.invalidShape (.emptyGroup k))
  | _ => .ok ()

mutual

/-- The tests of a filter, from left to right. -/
def tests : Filter → List Test
  | test t => [t]
  | group _ parts => testsOfAll parts

def testsOfAll : List Filter → List Test
  | [] => []
  | f :: fs => f.tests ++ testsOfAll fs

end

end Filter

end FilterQuery

import FilterQuery.Record.Match

/-!
Filters in the three-valued logic of the database. A comparison with null, or of two values that are not ordered, is neither true
nor false but unknown, and AND and OR carry the unknown upwards. A row is selected where the filter is true. -/

namespace FilterQuery

/-- What a filter is of a row. -/
inductive Truth
  | no
  | unknown
  | yes
deriving DecidableEq

namespace Truth

def ofBool : Bool → Truth
  | true => yes
  | false => no

/-- What a comparison is, given how the two values stand to each other. -/
def ofOrder (op : Operator) : Option Ordering → Truth
  | some o => ofBool (op.accepts o)
  | none => unknown

/-- Both: one that is false decides, else one that is unknown. -/
def and : Truth → Truth → Truth
  | no, _ | _, no => no
  | yes, yes => yes
  | _, _ => unknown

/-- At least one: one that is true decides, else one that is unknown. -/
def or : Truth → Truth → Truth
  | yes, _ | _, yes => yes
  | no, no => no
  | _, _ => unknown

theorem ofBool_eq_yes_iff {b : Bool} : ofBool b = yes ↔ b = true := by
  cases b <;> simp [ofBool]

theorem and_eq_yes_iff {a b : Truth} : a.and b = yes ↔ a = yes ∧ b = yes := by
  cases a <;> cases b <;> simp [and]

theorem or_eq_yes_iff {a b : Truth} : a.or b = yes ↔ a = yes ∨ b = yes := by
  cases a <;> cases b <;> simp [or]

end Truth

/-- What a test is of a record. Membership holds where one of the equalities does. -/
def Test.truth (record : Record) (t : Test) : Truth :=
  let against (op : Operator) (v : Value) : Truth :=
    .ofOrder op ((record.lookup t.field).bind fun cell => cell.compare? v)
  match t.operator, t.arguments with
  | .isNull, _ => .ofBool (record.lookup t.field).isNone
  | .isNotNull, _ => .ofBool (record.lookup t.field).isSome
  | .isIn, vs => (vs.map (against .eq)).foldr Truth.or .no
  | _, [] => .unknown
  | op, v :: _ => against op v

namespace Filter

mutual

def truth (record : Record) : Filter → Truth
  | .test t => t.truth record
  | .group .all parts => truthOfAll record parts
  | .group .any parts => truthOfAny record parts

def truthOfAll (record : Record) : List Filter → Truth
  | [] => .yes
  | f :: fs => (f.truth record).and (truthOfAll record fs)

def truthOfAny (record : Record) : List Filter → Truth
  | [] => .no
  | f :: fs => (f.truth record).or (truthOfAny record fs)

end

end Filter

end FilterQuery

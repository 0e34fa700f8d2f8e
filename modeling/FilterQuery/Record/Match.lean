import FilterQuery.Sql.Statement

/-!
Records and the filters that they pass. A record gives values to columns; a column without a value is null, and
no comparison with null holds. A filter is held to the same checks as when it becomes a statement, whatever the record. -/

namespace FilterQuery

/-- Values by column. A column that does not occur is null. -/
abbrev Record := List (String × Value)

def Test.holds (record : Record) (t : Test) : Bool :=
  match t.operator, record.lookup t.field with
  | .isNull, cell => cell.isNone
  | .isNotNull, cell => cell.isSome
  | _, none => false
  | .isIn, some cell => t.arguments.any fun v => cell.compare? v == some .eq
  | op, some cell =>
    match t.arguments with
    | [] => false
    | v :: _ =>
      match cell.compare? v with
      | none => false
      | some o => op.accepts o

namespace Filter

/-- A group of all holds where every part does, a group of any where one part does. -/
def joinHolds (k : Connective) (parts : List Bool) : Bool :=
  match k with
  | .all => parts.all id
  | .any => parts.any id

def matches? (f : Filter) (record : Record) : Except Failure Bool :=
  f.build (fun t => (Sql.checkTest t).map fun _ => t.holds record) joinHolds

end Filter

end FilterQuery

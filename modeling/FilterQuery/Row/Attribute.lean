import FilterQuery.Failure

/-!
Attributes: which columns of a result are decoded, and as what. -/

namespace FilterQuery

inductive CellKind
  | boolean
  | int64
  | double
  | string
  | duration
  | datetime
deriving DecidableEq

namespace CellKind

def name : CellKind → String
  | boolean => "boolean"
  | int64 => "int64"
  | double => "double"
  | string => "string"
  | duration => "duration"
  | datetime => "datetime"

/-- Every name of a kind, with the kind that it names. -/
def byName : List (String × CellKind) :=
  [("bool", boolean), ("boolean", boolean), ("int", int64), ("int64", int64), ("integer", int64), ("double", double),
    ("float", double), ("number", double), ("string", string), ("duration", duration), ("date_time", datetime),
    ("datetime", datetime), ("timestamp", datetime)]

def ofName? (name : String) : Option CellKind :=
  byName.lookup name

def keepsText : CellKind → Bool
  | string | duration | datetime => true
  | _ => false

end CellKind

structure Attribute where
  column : String
  kind : CellKind
  /-- Whether pages are ordered by the column. -/
  isUniqueId : Bool
deriving DecidableEq

/-- The first column that is marked as the unique id. -/
def Attribute.firstUniqueId (attributes : List Attribute) : Except Failure Attribute :=
  match attributes.find? Attribute.isUniqueId with
  | some a => .ok a
  | none => .error .noUniqueId

end FilterQuery

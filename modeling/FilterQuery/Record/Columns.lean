import FilterQuery.Text.Order

/-!
Things kept by the name of a column, in the order of the names. Each name occurs once, and what is put under a name takes the place of
what was there. -/

namespace FilterQuery

/-- Things by name, in increasing order of the names. -/
abbrev Columns (α : Type) := List (String × α)

namespace Columns

variable {α : Type}

def insert (name : String) (a : α) : Columns α → Columns α
  | [] => [(name, a)]
  | (n, b) :: rest =>
    match Text.byteOrder name n with
    | .lt => (name, a) :: (n, b) :: rest
    | .eq => (name, a) :: rest
    | .gt => (n, b) :: insert name a rest

/-- The things in a list of pairs, the last of each name. -/
def ofList (pairs : List (String × α)) : Columns α :=
  pairs.foldl (fun cs p => insert p.1 p.2 cs) []

end Columns

end FilterQuery

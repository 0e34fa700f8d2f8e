import FilterQuery.Keyset.Request
import FilterQuery.Record.Match

/-!
Pages of a table. A table is a list of records that carry the text of their unique id in the cursor column. A page holds
the first of the records that pass the condition of its request, in the order of that text, and the next request starts
after the last of them. -/

namespace FilterQuery

/-- Whether a record passes a filter, where there is one; a filter that cannot be used passes nothing. -/
def Record.passes (filter : Option Filter) (r : Record) : Bool :=
  match filter with
  | none => true
  | some f =>
    match f.matches? r with
    | .ok passes => passes
    | .error _ => false

namespace PageRequest

/-- The text of a record's unique id; a record without one has the empty text. -/
def idText (r : Record) : String :=
  match r.lookup cursorColumn with
  | some (.str s) => s
  | _ => ""

/-- Whether a record stands no later than another. -/
def inOrder (r s : Record) : Bool :=
  Text.byteOrder (idText r) (idText s) != .gt

def selects (q : PageRequest) (r : Record) : Bool :=
  Record.passes q.condition r

/-- The records of a table that pass the condition, in order. -/
def ranked (q : PageRequest) (table : List Record) : List Record :=
  (table.filter q.selects).mergeSort inOrder

/-- The records that a request selects from a table. -/
def page (q : PageRequest) (table : List Record) : List Record :=
  if q.pageSize = 0 then q.ranked table else (q.ranked table).take q.pageSize

def next (q : PageRequest) (rows : List Record) : PageRequest :=
  match rows.getLast? with
  | none => q
  | some r => q.startingAfter (some (idText r))

/-- One fetch of a run: the request, the table as it then was, and the rows of the page. -/
structure Fetch where
  request : PageRequest
  table : List Record
  rows : List Record

/-- The pages that are read one after the other, each from the state that the table is then in, up to the first empty page
or the last of the states. -/
def fetches (q : PageRequest) : List (List Record) → List Fetch
  | [] => []
  | table :: later =>
    let rows := q.page table
    ⟨q, table, rows⟩ :: if rows.isEmpty then [] else (q.next rows).fetches later

end PageRequest

end FilterQuery

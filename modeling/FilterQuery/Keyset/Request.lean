import FilterQuery.Settings.Limits
import FilterQuery.Sql.Statement
import FilterQuery.Text.Word

/-!
Page requests. A page holds the rows of a table that pass a filter and come after a cursor, ordered by the text
of the table's unique id. The order, the cursor and the extra column in the result all use one expression, the
unique id cast to a string, so a cursor taken from the last row of a page resumes right after it. -/

namespace FilterQuery

structure PageRequest where
  table : String
  uniqueId : String
  filter : Option Filter
  cursor : Option String
  /-- The number of rows; zero asks for all. -/
  pageSize : Nat
  castWidth : Nat
  maxPageSize : Nat

namespace PageRequest

/-- The column of the result that holds the unique id as a string; cursors are compared with it. -/
def cursorColumn : String := "str_id"

def ofTable (table uniqueId : String) : PageRequest where
  table := table
  uniqueId := uniqueId
  filter := none
  cursor := none
  pageSize := 0
  castWidth := Limits.default.castWidth
  maxPageSize := Limits.pageBound

def filteredBy (q : PageRequest) (filter : Option Filter) : PageRequest :=
  { q with filter := filter }

def startingAfter (q : PageRequest) (cursor : Option String) : PageRequest :=
  { q with cursor := cursor }

def ofSize (q : PageRequest) (pageSize : Nat) : PageRequest :=
  { q with pageSize := pageSize }

/-- The request under the given limits; the greatest page size stays within its own bound. -/
def under (q : PageRequest) (limits : Limits) : PageRequest :=
  { q with castWidth := limits.castWidth, maxPageSize := min limits.maxPageSize Limits.pageBound }

/-- The cursor, where there is one: an empty cursor asks for the first page. -/
def resumeAfter (q : PageRequest) : Option String :=
  q.cursor.filter fun c => c != ""

def cursorTest (cursor : String) : Filter :=
  .test ⟨cursorColumn, .gt, some (.str cursor)⟩

/-- What the rows of the page must pass: the cursor first, then the filter. -/
def condition (q : PageRequest) : Option Filter :=
  match q.resumeAfter, q.filter with
  | some c, some f => some (.group .all [cursorTest c, f])
  | some c, none => some (cursorTest c)
  | none, f => f

def checkPageSize (q : PageRequest) : Except Failure Unit :=
  if q.maxPageSize < q.pageSize then .error (.pageTooLong q.pageSize q.maxPageSize) else .ok ()

/-- Whether a cursor is out of range. One of digits alone must be a word of 64 bits that is within the bound; any other cursor is
a text and has no range. -/
def isOutOfRange (cursor : String) : Bool :=
  let bytes := Text.utf8Bytes cursor
  bytes.all Text.isDigitByte && !(Text.readWord? bytes).any fun n => n.toNat ≤ Limits.pageBound

/-- A cursor that is a number must be within its bound. -/
def checkCursor (q : PageRequest) : Except Failure Unit :=
  match q.resumeAfter with
  | none => .ok ()
  | some c => if isOutOfRange c then .error (.cursorTooGreat c Limits.pageBound) else .ok ()

def castId (q : PageRequest) : Sql.Text :=
  Sql.charCast (Sql.quote q.uniqueId) q.castWidth

def selectText (q : PageRequest) : Sql.Text :=
  "SELECT *, ".toList ++ q.castId ++ " AS ".toList ++ Sql.quote cursorColumn ++ " FROM ".toList ++ Sql.quote q.table

/-- The condition of the statement. In it the cursor column stands for the cast of the unique id. -/
def whereStatement (q : PageRequest) : Except Failure Sql.Statement :=
  match q.condition with
  | none => .ok ⟨[], []⟩
  | some f =>
    (Sql.compileWith [(cursorColumn, String.ofList q.castId)] f).map fun s =>
      ⟨" WHERE (".toList ++ s.text ++ [')'], s.args⟩

/-- The page size as a word of 32 bits, which is how a statement takes it. -/
def pageSizeWord (q : PageRequest) : Except Failure UInt32 :=
  if h : q.pageSize < UInt32.size then .ok (.ofNatLT q.pageSize h)
  else .error (.pageTooLong q.pageSize Limits.pageBound)

/-- The end of the statement, from its order on. -/
def tailStatement (q : PageRequest) : Except Failure Sql.Statement :=
  let order := ' ' :: Sql.orderText (Sql.quote cursorColumn) false
  if q.pageSize = 0 then .ok ⟨order, []⟩
  else q.pageSizeWord.map fun rows => ⟨order ++ ' ' :: Sql.limitText, [.int (Int64.ofNat rows.toNat)]⟩

/-- The statement that selects the page. Bounds are checked first, then the names, then the filter; the arguments are
the cursor, the values of the filter, and the page size. -/
def statement (q : PageRequest) : Except Failure Sql.Statement := do
  q.checkPageSize
  q.checkCursor
  Sql.checkIdentifier q.table
  Sql.checkIdentifier q.uniqueId
  let condition ← q.whereStatement
  let tail ← q.tailStatement
  return ⟨q.selectText ++ condition.text ++ tail.text, condition.args ++ tail.args⟩

end PageRequest

end FilterQuery

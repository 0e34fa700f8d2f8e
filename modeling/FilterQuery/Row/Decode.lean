import FilterQuery.Double.Numeral
import FilterQuery.Json.Read
import FilterQuery.Record.Columns
import FilterQuery.Row.Attribute
import FilterQuery.Value.Json

/-!
Decoding rows. A row holds the bytes of its cells; an attribute says how the cell of its column is read. Null cells, empty cells and columns that
are not there leave no trace in the result, and neither do columns that no attribute names. -/

namespace FilterQuery

abbrev Bytes := List UInt8

/-- Cells by column; `none` is null. -/
abbrev Row := List (String × Option Bytes)

def truthValue? (text : String) : Option Bool :=
  if text ∈ ["1", "t", "T", "TRUE", "true", "True"] then some true
  else if text ∈ ["0", "f", "F", "FALSE", "false", "False"] then some false
  else none

/-- Whether a text is a name of infinity or NaN, in any letter case, behind any number of signs. -/
def namesNonFinite (text : List Char) : Bool :=
  let name := (text.dropWhile fun c => c = '+' ∨ c = '-').map Char.toLower
  name ∈ [['i', 'n', 'f'], ['i', 'n', 'f', 'i', 'n', 'i', 't', 'y'], ['n', 'a', 'n']]

/-- The number in a cell. A text may be read as an infinity or as NaN only where it names them: a numeral beyond the
range of doubles is refused. -/
def readCellNumber (text : String) : Except CellFault Double :=
  match DoubleText.read text.toList with
  | none => .error (if text.isEmpty then .emptyNumber else .notNumber)
  | some number =>
    let x := number.toDouble
    if !x.isFinite && !namesNonFinite text.toList then .error .outOfRange else .ok x

/-- The value of a cell whose text is known. Integers are read as doubles, the one kind of number that a result has. -/
def readCellText (kind : CellKind) (text : String) : Except CellFault Value :=
  if kind.keepsText then .ok (.str text)
  else match kind with
    | .boolean =>
      match truthValue? text with
      | some b => .ok (.bool b)
      | none => .error .notBoolean
    | _ => (readCellNumber text).map .float

def readCell (column : String) (kind : CellKind) (raw : Bytes) : Except Failure Value :=
  match Text.decodeUtf8 raw with
  | .error fault => .error (.badCell column (Text.decodeLossy raw) (.notUtf8 fault))
  | .ok text => (readCellText kind text).mapError (.badCell column text)

namespace Row

/-- The cell of a column, where there is one that is neither null nor empty. -/
def cell? (row : Row) (column : String) : Option Bytes :=
  match row.lookup column with
  | some (some (b :: bs)) => some (b :: bs)
  | _ => none

def decodeNext (row : Row) (decoded : Columns Value) (a : Attribute) : Except Failure (Columns Value) :=
  match row.cell? a.column with
  | none => .ok decoded
  | some raw => (readCell a.column a.kind raw).map fun v => decoded.insert a.column v

/-- The values of the attributes that a row has, by column; of two attributes for one column the later counts. -/
def decode (row : Row) (attributes : List Attribute) : Except Failure (Columns Value) :=
  attributes.foldlM (decodeNext row) []

/-- Decodes rows, the first of which has the given index. -/
def decodeFrom (attributes : List Attribute) : Nat → List Row → Except Failure (List (Columns Value))
  | _, [] => .ok []
  | index, row :: rows =>
    match row.decode attributes with
    | .error e => .error (.inRow index e)
    | .ok values => (decodeFrom attributes (index + 1) rows).map (values :: ·)

/-- Decodes every row; the first that fails is named by its index. -/
def decodeAll (rows : List Row) (attributes : List Attribute) : Except Failure (List (Columns Value)) :=
  decodeFrom attributes 0 rows

def readMember (cells : Columns (Option Bytes)) (m : Json.Doc × Json.Doc) :
    Except Json.Fault (Columns (Option Bytes)) := do
  let name ← m.1.readMemberName
  let cell ← m.2.readOption Json.Doc.readString
  return cells.insert name (cell.map Text.utf8Bytes)

/-- Reads a row: an object of strings and nulls, where the last of two members of one name counts. -/
def read : Json.Reader Row
  | .object members closed => do
    let cells ← members.foldlM readMember []
    Json.Doc.close closed
    return cells
  | d => d.wrongKind "a map"

def ofJson (text : String) : Except Json.Fault Row :=
  Json.read read text

def valuesToJson (values : Columns Value) : Json.Tree :=
  .object (values.map fun c => (c.1, c.2.toJson))

end Row

end FilterQuery

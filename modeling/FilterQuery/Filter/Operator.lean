import FilterQuery.Text.Blank

/-!
The operators of a test. Each has one spelling; a text names an operator when its words are those of the
spelling, in any case of the ASCII letters. -/

namespace FilterQuery

inductive Operator
  | eq
  | ne
  | gt
  | lt
  | ge
  | le
  | isIn
  | isNull
  | isNotNull
deriving DecidableEq

namespace Operator

def all : List Operator :=
  [eq, ne, gt, lt, ge, le, isIn, isNull, isNotNull]

/-- The spelling of the operator, in a filter and in a statement. -/
def spelling : Operator → String
  | eq => "="
  | ne => "!="
  | gt => ">"
  | lt => "<"
  | ge => ">="
  | le => "<="
  | isIn => "IN"
  | isNull => "IS NULL"
  | isNotNull => "IS NOT NULL"

/-- Whether the operator compares with a value. -/
def needsValue : Operator → Bool
  | isNull | isNotNull => false
  | _ => true

/-- A text with single spaces between its words, none around them, and capital ASCII letters. -/
def normalize (s : List Char) : List Char :=
  ([' '].intercalate (Text.words s)).map Char.toUpper

/-- The operator that a text names. -/
def ofText? (text : String) : Option Operator :=
  all.find? fun op => op.spelling.toList == normalize text.toList

/-- Whether a value that stands in order `o` to the operand passes. -/
def accepts : Operator → Ordering → Bool
  | eq, o => o == .eq
  | ne, o => o != .eq
  | gt, o => o == .gt
  | lt, o => o == .lt
  | ge, o => o != .lt
  | le, o => o != .gt
  | isIn, _ | isNull, _ | isNotNull, _ => false

end Operator

inductive Connective
  | all
  | any
deriving DecidableEq

def Connective.word : Connective → String
  | all => "AND"
  | any => "OR"

end FilterQuery

import FilterQuery.Filter.Operator
import FilterQuery.Json.Fault
import FilterQuery.Text.Utf8

/-!
What can go wrong between a filter and a page of rows. A failure inside a part of a group, or inside one row of many, is
wrapped with its position; the code of a failure is that of its root, and its message spells the way to it. -/

namespace FilterQuery

inductive ShapeFault
  /-- A group without parts. -/
  | emptyGroup (k : Connective)
  /-- Neither a group nor a test. -/
  | nothing
  /-- More than one of: a group of all, a group of any, a test. -/
  | mixed (all any test : Bool)
deriving DecidableEq

inductive ValueFault
  /-- A list where one value is compared. -/
  | listOutsideIn
  /-- A list inside the list of a membership test. -/
  | nestedList
deriving DecidableEq

/-- Why a cell is not what its column is declared to hold. -/
inductive CellFault
  | notUtf8 (fault : Text.Utf8Fault)
  | notBoolean
  | emptyNumber
  | notNumber
  /-- A numeral beyond the range of doubles. -/
  | outOfRange
deriving DecidableEq

inductive Failure
  | invalidShape (fault : ShapeFault)
  | invalidIdentifier (name : String)
  | unknownOperator (text : String)
  | missingValue (field : String) (operator : Operator)
  | surplusValue (field : String) (operator : Operator)
  | unfitValue (field : String) (operator : Operator) (fault : ValueFault)
  | pageTooLong (size max : Nat)
  | cursorTooGreat (cursor : String) (max : Nat)
  | badCell (column raw : String) (fault : CellFault)
  | filterTooLong (max : Nat)
  | filterTooDeep (max : Nat)
  | unreadableFilter (fault : Json.Fault)
  | noUniqueId
  /-- A failure in the part of a group at an index; the parts are joined by the connective. -/
  | inPart (connective : String) (index : Nat) (cause : Failure)
  /-- A failure in the row at an index. -/
  | inRow (index : Nat) (cause : Failure)
deriving DecidableEq

namespace ShapeFault

def mixedNames (all any test : Bool) : List String :=
  (if all then ["and"] else []) ++ (if any then ["or"] else []) ++ (if test then ["leaf"] else [])

/-- What is wrong with the node. -/
def message : ShapeFault → String
  | emptyGroup k => k.word ++ " composite has no children"
  | nothing => "condition has none of and/or/field populated"
  | mixed all any test => "condition mixes " ++ " + ".intercalate (mixedNames all any test)

end ShapeFault

def ValueFault.message : ValueFault → String
  | listOutsideIn => "list values are only accepted by IN"
  | nestedList => "IN values must be scalars"

def CellFault.message : CellFault → String
  | notUtf8 fault => fault.message
  | notBoolean => "expected a boolean"
  | emptyNumber => "cannot parse float from empty string"
  | notNumber => "invalid float literal"
  | outOfRange => "value out of range"

namespace Failure

/-- The failure without the positions around it. -/
def root : Failure → Failure
  | inPart _ _ cause => cause.root
  | inRow _ cause => cause.root
  | f => f

/-- The code of a failure: a caller may rely on it where the message may change. -/
def code : Failure → String
  | invalidShape _ => "INVALID_CONDITION_SHAPE"
  | invalidIdentifier _ => "INVALID_IDENTIFIER"
  | unknownOperator _ => "UNSUPPORTED_OPERATOR"
  | missingValue .. => "VALUE_REQUIRED"
  | surplusValue .. => "VALUE_NOT_ALLOWED"
  | unfitValue .. => "INVALID_VALUE"
  | pageTooLong .. | cursorTooGreat .. => "RANGE_EXCEEDED"
  | badCell .. => "DECODE_FAILURE"
  | filterTooLong _ => "FILTER_TOO_LARGE"
  | filterTooDeep _ => "FILTER_TOO_DEEP"
  | unreadableFilter _ => "INVALID_FILTER_JSON"
  | noUniqueId => "MISSING_UNIQUE_ID"
  | inPart _ _ cause => cause.code
  | inRow _ cause => cause.code

/-- The message: the positions from the outside in, then what went wrong. -/
def message : Failure → String
  | invalidShape fault => "Invalid condition shape: " ++ fault.message
  | invalidIdentifier name => "Invalid identifier: " ++ Text.quoted name
  | unknownOperator text => "Unsupported operator: " ++ Text.quoted text
  | missingValue field op => "Operator " ++ op.spelling ++ " on field " ++ Text.quoted field ++ " requires a value"
  | surplusValue field op =>
    "Operator " ++ op.spelling ++ " on field " ++ Text.quoted field ++ " does not accept a value"
  | unfitValue field op fault =>
    "Invalid value for " ++ op.spelling ++ " on field " ++ Text.quoted field ++ ": " ++ fault.message
  | pageTooLong size max => s!"page size {size} exceeds maximum of {max}"
  | cursorTooGreat cursor max => s!"cursor {cursor} exceeds maximum of {max}"
  | badCell column raw fault =>
    "Failed to decode attribute " ++ Text.quoted column ++ " from " ++ Text.quoted raw ++ ": " ++ fault.message
  | filterTooLong max => s!"Filter JSON exceeds maximum size of {max} bytes"
  | filterTooDeep max => s!"Filter exceeds maximum nesting depth of {max}"
  | unreadableFilter fault =>
    match fault.message? with
    | some m => "Invalid filter JSON: " ++ m
    | none => "Invalid filter JSON"
  | noUniqueId => "No attribute is marked as the unique id"
  | inPart connective index cause => connective ++ s!" condition #{index}: " ++ cause.message
  | inRow index cause => s!"Row {index}: " ++ cause.message

/-- The failure and the causes inside it, from the outside in, each with its own message. What is wrong inside a JSON text is
left out. -/
def chain : Failure → List String
  | inPart connective index cause => (inPart connective index cause).message :: cause.chain
  | inRow index cause => (inRow index cause).message :: cause.chain
  | unreadableFilter _ => [(unreadableFilter .malformed).message]
  | f => [f.message]

end Failure

end FilterQuery

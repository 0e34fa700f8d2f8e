import FilterQuery.Filter.Node
import FilterQuery.Value.Json

/-!
Filters in JSON. A node is an object with any of the members `field`, `op`, `value`, `and` and `or`, in any order, or an array
of the same in this order. Members are read one by one as they stand in the text, and the first thing
that is wrong with one of them ends the reading. -/

namespace FilterQuery

namespace FilterNode

inductive Member
  | field
  | operator
  | value
  | all
  | any

namespace Member

/-- The names of the members, in the order of the array form; the operator has a second name. -/
def names : List String :=
  ["field", "op", "operator", "value", "and", "or"]

/-- The members in the order of the array form. -/
def inOrder : List Member :=
  [field, operator, value, all, any]

/-- The name under which a member that occurs twice is reported. -/
def name : Member → String
  | field => "field"
  | operator => "op"
  | value => "value"
  | all => "and"
  | any => "or"

def ofName? (name : String) : Option Member :=
  if name = "field" then some field
  else if name = "op" ∨ name = "operator" then some operator
  else if name = "value" then some value
  else if name = "and" then some all
  else if name = "or" then some any
  else none

end Member

structure Draft where
  field : Option String
  operator : Option String
  value : Option (Option Value)
  all : Option (List FilterNode)
  any : Option (List FilterNode)

namespace Draft

def empty : Draft :=
  ⟨none, none, none, none, none⟩

def has (d : Draft) : Member → Bool
  | .field => d.field.isSome
  | .operator => d.operator.isSome
  | .value => d.value.isSome
  | .all => d.all.isSome
  | .any => d.any.isSome

/-- The node with the members that were read; what is missing is empty. -/
def node (d : Draft) : FilterNode :=
  ⟨d.field.getD "", d.operator.getD "", d.value.getD none, d.all.getD [], d.any.getD []⟩

/-- Reads the content of a member. `nodes` reads the parts of a group. -/
def readContent (levels : Nat) (nodes : Json.Reader (List FilterNode)) (d : Draft) (m : Member) (content : Json.Doc) :
    Except Json.Fault Draft :=
  match m with
  | .field => content.readString.map fun s => { d with field := some s }
  | .operator => content.readString.map fun s => { d with operator := some s }
  | .value => (content.readOption (Value.read levels)).map fun v => { d with value := some v }
  | .all => (nodes content).map fun ns => { d with all := some ns }
  | .any => (nodes content).map fun ns => { d with any := some ns }

/-- Reads a member by name: the name is judged before the content is looked at. -/
def readMember (levels : Nat) (nodes : Json.Reader (List FilterNode)) (d : Draft) (m : Json.Doc × Json.Doc) :
    Except Json.Fault Draft := do
  let name ← m.1.readMemberName
  match Member.ofName? name with
  | none => throw (.unknownMember name Member.names)
  | some member =>
    if d.has member then throw (.duplicateMember member.name)
    readContent levels nodes d member m.2

/-- Reads the members by position: any number of them may be missing at the end, and none may follow the last. -/
def readItems (levels : Nat) (nodes : Json.Reader (List FilterNode)) (items : List Json.Doc) :
    Except Json.Fault Draft := do
  let d ← (Member.inOrder.zip items).foldlM (fun d m => readContent levels nodes d m.1 m.2) empty
  Json.Doc.close (items.length ≤ Member.inOrder.length)
  return d

end Draft

mutual

/-- Reads a node, with so many levels left to enter. -/
def read : Nat → Json.Reader FilterNode
  | levels + 1, .object members closed => do
    let d ← members.foldlM (Draft.readMember levels (readAll levels)) Draft.empty
    Json.Doc.close closed
    return d.node
  | levels + 1, .array items closed => do
    let d ← Draft.readItems levels (readAll levels) items
    Json.Doc.close closed
    return d.node
  | 0, .object .. | 0, .array .. => .error .malformed
  | _, d => d.wrongKind "struct RawCondition"

def readAll : Nat → Json.Reader (List FilterNode)
  | levels + 1, .array items closed => do
    let nodes ← items.mapM (read levels)
    Json.Doc.close closed
    return nodes
  | 0, .array .. => .error .malformed
  | _, d => d.wrongKind "a sequence"

end

def ofJson (text : String) : Except Json.Fault FilterNode :=
  Json.read (read Json.maxDepth) text

end FilterNode

namespace Filter

/-- Reads a JSON text as a filter, within limits on the size of the text and the depth of the filter. -/
def parse (text : String) (maxBytes maxDepth : Nat) : Except Failure Filter :=
  if maxBytes < text.utf8ByteSize then .error (.filterTooLong maxBytes)
  else match FilterNode.ofJson text with
    | .error fault => .error (.unreadableFilter fault)
    | .ok node => node.toFilterWithin maxDepth

/-- Reads a text that may hold no filter at all: blanks around it do not count, and nothing or `null` means none. -/
def parseOrNone (text : String) (maxBytes maxDepth : Nat) : Except Failure (Option Filter) :=
  let trimmed := Text.trim text.toList
  if trimmed = [] ∨ trimmed = ['n', 'u', 'l', 'l'] then .ok none
  else (parse (String.ofList trimmed) maxBytes maxDepth).map some

end Filter

end FilterQuery

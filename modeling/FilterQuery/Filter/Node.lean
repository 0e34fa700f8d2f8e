import FilterQuery.Filter.Basic

/-!
Nodes of a filter as a caller writes them: every member may be there or not, and a member that is empty counts as absent. A node stands
for a test or for a group when exactly one of the three ways to fill it is used; turning a tree of nodes into a filter
checks this at every node and keeps to a limit on the depth. -/

namespace FilterQuery

/-- A node with all its members. -/
structure FilterNode where
  field : String
  operator : String
  value : Option Value
  all : List FilterNode
  any : List FilterNode

namespace FilterNode

inductive Kind
  | test
  | group (k : Connective)
deriving DecidableEq

/-- What a node stands for; the nodes inside it are not looked into. -/
def kind (n : FilterNode) : Except Failure Kind :=
  let all := !n.all.isEmpty
  let any := !n.any.isEmpty
  let test := n.field != "" || n.operator != "" || n.value.isSome
  match all, any, test with
  | true, false, false => .ok (.group .all)
  | false, true, false => .ok (.group .any)
  | false, false, true => .ok .test
  | false, false, false => .error (.invalidShape .nothing)
  | _, _, _ => .error (.invalidShape (.mixed all any test))

def toTest (field operator : String) (value : Option Value) : Except Failure Filter :=
  match Operator.ofText? operator with
  | some op => .ok (.test ⟨field, op, value⟩)
  | none => .error (.unknownOperator operator)

/-- Whether a depth is beyond the limit, if there is one. -/
def isTooDeep (limit : Option Nat) (depth : Nat) : Bool :=
  match limit with
  | some max => max < depth
  | none => false

mutual

/-- The filter that a node at the given depth stands for. The depth is looked at before the node. -/
def toFilterAt (limit : Option Nat) (depth : Nat) : FilterNode → Except Failure Filter
  | ⟨field, operator, value, all, any⟩ =>
    if isTooDeep limit depth then .error (.filterTooDeep (limit.getD 0))
    else match kind ⟨field, operator, value, all, any⟩ with
      | .error e => .error e
      | .ok .test => toTest field operator value
      | .ok (.group .all) => (toFiltersAt limit (depth + 1) .all 0 all).map (.group .all)
      | .ok (.group .any) => (toFiltersAt limit (depth + 1) .any 0 any).map (.group .any)

/-- The filters that the parts of a group stand for, the first of which has the given index. -/
def toFiltersAt (limit : Option Nat) (depth : Nat) (k : Connective) :
    Nat → List FilterNode → Except Failure (List Filter)
  | _, [] => .ok []
  | index, n :: ns =>
    match toFilterAt limit depth n with
    | .error e => .error (.inPart k.word index e)
    | .ok f => (toFiltersAt limit depth k (index + 1) ns).map (f :: ·)

end

def toFilter (n : FilterNode) : Except Failure Filter :=
  n.toFilterAt none 1

/-- The filter that a node stands for, with at most `max` nodes from the root to any test. -/
def toFilterWithin (max : Nat) (n : FilterNode) : Except Failure Filter :=
  n.toFilterAt (some max) 1

end FilterNode

namespace Filter

mutual

/-- The node that says the same as a filter, with the operators in their own spelling. -/
def toNode : Filter → FilterNode
  | .test t => ⟨t.field, t.operator.spelling, t.value, [], []⟩
  | .group .all parts => ⟨"", "", none, toNodes parts, []⟩
  | .group .any parts => ⟨"", "", none, [], toNodes parts⟩

def toNodes : List Filter → List FilterNode
  | [] => []
  | f :: fs => f.toNode :: toNodes fs

end

mutual

/-- The number of nodes on the longest way from the root to a leaf. -/
def depth : Filter → Nat
  | .test _ => 1
  | .group _ parts => depthOfAll parts + 1

def depthOfAll : List Filter → Nat
  | [] => 0
  | f :: fs => max f.depth (depthOfAll fs)

end

end Filter

end FilterQuery

import FilterQuery.Json.Read
import FilterQuery.Json.Write
import FilterQuery.Row.Attribute

/-!
Attributes in JSON. An attribute is an object with the members `externalId`, `type` and `isUniqueId`, the first and the last
of which have a second spelling, or an array of the same in this order. Other members are skipped. What is written
uses the first spelling and the one name of each kind. -/

namespace FilterQuery.Attribute

inductive Member
  | column
  | kind
  | isUniqueId

namespace Member

/-- The first spelling of the member's name, under which it is reported. -/
def name : Member → String
  | column => "externalId"
  | kind => "type"
  | isUniqueId => "isUniqueId"

def ofName? (name : String) : Option Member :=
  if name = "externalId" ∨ name = "external_id" then some column
  else if name = "type" then some kind
  else if name = "isUniqueId" ∨ name = "is_unique_id" then some isUniqueId
  else none

end Member

/-- The kind of a given name, among all the names that a kind may have. -/
def kindOfName (name : String) : Except Json.Fault CellKind :=
  match CellKind.ofName? name with
  | some k => .ok k
  | none => .error (.unknownVariant name (CellKind.byName.map Prod.fst))

/-- Reads a kind: its name, or an object whose one member has that name and holds null. -/
def readKind (levels : Nat) : Json.Reader CellKind
  | .string (some s) => kindOfName s
  | .object members closed => do
    let _ ← Json.Doc.enter levels
    match members with
    | [] => throw .malformed
    | (name, content) :: rest =>
      let k ← kindOfName (← name.readMemberName)
      match content with
      | .null => Json.Doc.close (closed && rest.isEmpty)
      | d => d.wrongKind "unit"
      return k
  | _ => .error .malformed

structure Draft where
  column : Option String
  kind : Option CellKind
  isUniqueId : Option Bool

namespace Draft

def empty : Draft :=
  ⟨none, none, none⟩

def has (d : Draft) : Member → Bool
  | .column => d.column.isSome
  | .kind => d.kind.isSome
  | .isUniqueId => d.isUniqueId.isSome

def readContent (levels : Nat) (d : Draft) (m : Member) (content : Json.Doc) : Except Json.Fault Draft :=
  match m with
  | .column => content.readString.map fun s => { d with column := some s }
  | .kind => (readKind levels content).map fun k => { d with kind := some k }
  | .isUniqueId => content.readBool.map fun b => { d with isUniqueId := some b }

/-- Reads a member by name; one that is not known only has to be whole. -/
def readMember (levels : Nat) (d : Draft) (m : Json.Doc × Json.Doc) : Except Json.Fault Draft := do
  let name ← m.1.readMemberName
  match Member.ofName? name with
  | none => m.2.skip.map fun _ => d
  | some member =>
    if d.has member then throw (.duplicateMember member.name)
    readContent levels d member m.2

/-- The attribute, if the members that it must have were read. -/
def finish (d : Draft) : Except Json.Fault Attribute :=
  match d.column, d.kind with
  | none, _ => .error (.missingMember Member.column.name)
  | some _, none => .error (.missingMember Member.kind.name)
  | some column, some kind => .ok ⟨column, kind, d.isUniqueId.getD false⟩

end Draft

/-- Reads the members by position; the last may be missing. -/
def readItems (levels : Nat) (items : List Json.Doc) (closed : Bool) : Except Json.Fault Attribute := do
  let d ← (([.column, .kind, .isUniqueId] : List Member).zip items).foldlM
    (fun d m => Draft.readContent levels d m.1 m.2) Draft.empty
  if items.length < 3 then Json.Doc.close closed
  match d.column, d.kind with
  | some column, some kind =>
    Json.Doc.close (closed && items.length ≤ 3)
    return ⟨column, kind, d.isUniqueId.getD false⟩
  | _, _ => throw (.wrongLength items.length "struct AttributeDescriptor with 3 elements")

def read (levels : Nat) : Json.Reader Attribute
  | .object members closed => do
    let levels ← Json.Doc.enter levels
    let d ← members.foldlM (Draft.readMember levels) Draft.empty
    Json.Doc.close closed
    d.finish
  | .array items closed => do
    let levels ← Json.Doc.enter levels
    readItems levels items closed
  | d => d.wrongKind "struct AttributeDescriptor"

def readAll (levels : Nat) : Json.Reader (List Attribute)
  | .array items closed => do
    let levels ← Json.Doc.enter levels
    let attributes ← items.mapM (read levels)
    Json.Doc.close closed
    return attributes
  | d => d.wrongKind "a sequence"

def ofJson (text : String) : Except Json.Fault (List Attribute) :=
  Json.read (readAll Json.maxDepth) text

def toJson (a : Attribute) : Json.Tree :=
  .object [(Member.column.name, .string a.column), (Member.kind.name, .string a.kind.name),
    (Member.isUniqueId.name, .bool a.isUniqueId)]

def listToJson (attributes : List Attribute) : String :=
  String.ofList (Json.Tree.array (attributes.map toJson)).compact

end FilterQuery.Attribute

import FilterQuery.Filter.Json
import FilterQuery.Proofs.Json.Drafts

/-!
The contents of the members of a node. Reading a member gives its content whatever has been read before, and puts it into the
draft; a node has a content for each member, which is blank where there was none. -/

namespace FilterQuery.FilterNode

open Json (Doc Reader)

inductive Content
  | field (s : String)
  | operator (s : String)
  | value (v : Option Value)
  | all (nodes : List FilterNode)
  | any (nodes : List FilterNode)

namespace Content

def member : Content → Member
  | field _ => .field
  | operator _ => .operator
  | value _ => .value
  | all _ => .all
  | any _ => .any

/-- The content of a member that is missing. -/
def blank : Member → Content
  | .field => field ""
  | .operator => operator ""
  | .value => value none
  | .all => all []
  | .any => any []

def IsBlank (c : Content) : Prop :=
  c = blank c.member

theorem member_blank (k : Member) : (blank k).member = k := by
  cases k <;> rfl

theorem isBlank_blank (k : Member) : (blank k).IsBlank := by
  rw [IsBlank, member_blank]

def nodes : Content → List FilterNode
  | all ns | any ns => ns
  | _ => []

end Content

def content (n : FilterNode) : Member → Content
  | .field => .field n.field
  | .operator => .operator n.operator
  | .value => .value n.value
  | .all => .all n.all
  | .any => .any n.any

variable {n n' : FilterNode} {k : Member} {c : Content} {levels : Nat} {parts : Reader (List FilterNode)} {doc : Doc}

theorem member_content (n : FilterNode) (k : Member) : (n.content k).member = k := by
  cases k <;> rfl

theorem ext_content (h : ∀ k, n.content k = n'.content k) : n = n' := by
  cases n
  cases n'
  cases h .field
  cases h .operator
  cases h .value
  cases h .all
  cases h .any
  rfl

/-! ### Drafts -/

namespace Draft

def get? (d : Draft) : Member → Option Content
  | .field => d.field.map .field
  | .operator => d.operator.map .operator
  | .value => d.value.map .value
  | .all => d.all.map .all
  | .any => d.any.map .any

def put (d : Draft) : Content → Draft
  | .field s => { d with field := some s }
  | .operator s => { d with operator := some s }
  | .value v => { d with value := some v }
  | .all ns => { d with all := some ns }
  | .any ns => { d with any := some ns }

def places : Json.Places Draft Member Content where
  get? := get?
  put := put
  kind := Content.member
  get?_put_self d c := by cases c <;> rfl
  get?_put_of_ne d c k h := by cases c <;> cases k <;> first | rfl | exact absurd rfl h

theorem get?_empty (k : Member) : empty.get? k = none := by
  cases k <;> rfl

theorem has_eq (d : Draft) (k : Member) : d.has k = (d.get? k).isSome := by
  cases k <;> exact Option.isSome_map.symm

theorem content_node (d : Draft) (k : Member) : d.node.content k = (d.get? k).getD (.blank k) := by
  obtain ⟨field, operator, value, all, any⟩ := d
  cases k with
  | field => cases field <;> rfl
  | operator => cases operator <;> rfl
  | value => cases value <;> rfl
  | all => cases all <;> rfl
  | any => cases any <;> rfl

end Draft

/-! ### Reading contents -/

def readContent (levels : Nat) (parts : Reader (List FilterNode)) (k : Member) : Reader Content := fun doc =>
  match k with
  | .field => doc.readString.map .field
  | .operator => doc.readString.map .operator
  | .value => (doc.readOption (Value.read levels)).map .value
  | .all => (parts doc).map .all
  | .any => (parts doc).map .any

def memberOf? (name : Doc) : Option Member :=
  name.name?.bind Member.ofName?

/-- How the members of an object are read: none but those of a node are known. -/
def naming (levels : Nat) (parts : Reader (List FilterNode)) : Json.Naming Member Content where
  ofName? := Member.ofName?
  unknown name _ := .error (.unknownMember name Member.names)
  content := readContent levels parts
  duplicate k := .duplicateMember k.name

/-- What a member of an array gives, by its position. -/
def readPlaced (levels : Nat) (parts : Reader (List FilterNode)) (m : Member × Doc) : Except Json.Fault (Option Content) :=
  (readContent levels parts m.1 m.2).map some

theorem member_of_readContent (h : readContent levels parts k doc = .ok c) : c.member = k := by
  cases k <;> obtain ⟨_, _, rfl⟩ := map_eq_ok_iff.mp h <;> rfl

theorem Draft.readContent_eq (d : Draft) (k : Member) (doc : Doc) :
    Draft.readContent levels parts d k doc = (FilterNode.readContent levels parts k doc).map d.put := by
  cases k with
  | field | operator => cases h : doc.readString <;> simp only [Draft.readContent, FilterNode.readContent, h] <;> rfl
  | value =>
      cases h : doc.readOption (Value.read levels) <;> simp only [Draft.readContent, FilterNode.readContent, h] <;> rfl
  | all | any => cases h : parts doc <;> simp only [Draft.readContent, FilterNode.readContent, h] <;> rfl

theorem Draft.readContent_eq_ok_iff {d d' : Draft} : Draft.readContent levels parts d k doc = .ok d' ↔
    ∃ c, FilterNode.readContent levels parts k doc = .ok c ∧ d' = d.put c := by
  rw [Draft.readContent_eq, map_eq_ok_iff]
  simp only [eq_comm]

theorem isFor_naming : (naming levels parts).IsFor Draft.places :=
  fun _ _ _ => member_of_readContent

/-- A member of an object gives the content under its name, if that is known. -/
theorem gives_eq_ok_iff {m : Doc × Doc} {o : Option Content} : (naming levels parts).gives m = .ok o ↔
    ∃ k c, memberOf? m.1 = some k ∧ readContent levels parts k m.2 = .ok c ∧ o = some c := by
  constructor
  · intro h
    cases o with
    | none =>
        obtain ⟨name, hname⟩ := Json.Naming.exists_name_of_gives h
        cases hk : (naming levels parts).ofName? name with
        | none =>
            rw [Json.Naming.gives_of_unknown hname hk] at h
            cases h
        | some k =>
            rw [Json.Naming.gives_of_known hname hk] at h
            obtain ⟨_, _, hnone⟩ := map_eq_ok_iff.mp h
            cases hnone
    | some c =>
        obtain ⟨k, hk, hc⟩ := Json.Naming.gives_eq_some_iff.mp h
        exact ⟨k, c, hk, hc, rfl⟩
  · rintro ⟨k, c, hk, hc, rfl⟩
    exact Json.Naming.gives_eq_some_iff.mpr ⟨k, hk, hc⟩

theorem Draft.readMember_eq_step : Draft.readMember levels parts = (naming levels parts).step Draft.places := by
  funext d m
  rw [Draft.readMember, Json.Naming.step]
  congr
  funext name
  cases h : Member.ofName? name with
  | none => simp only [naming, h]; rfl
  | some k =>
      simp only [naming, h, has_eq, readContent_eq]
      rfl

/-- Members of an object are read into the places of their names. -/
theorem reads_readMember (levels : Nat) (parts : Reader (List FilterNode)) :
    Draft.places.Reads (Draft.readMember levels parts) (naming levels parts).gives := by
  rw [Draft.readMember_eq_step]
  exact Json.Naming.reads_step isFor_naming

/-- Members of an array are read into the places of their positions. -/
theorem reads_readContent (levels : Nat) (parts : Reader (List FilterNode)) :
    Draft.places.Reads (fun d m => Draft.readContent levels parts d m.1 m.2) (readPlaced levels parts) where
  sound := by
    intro d m d' h
    obtain ⟨c, hc, rfl⟩ := Draft.readContent_eq_ok_iff.mp h
    exact ⟨some c, map_eq_ok_iff.mpr ⟨c, hc, rfl⟩, rfl⟩
  complete := by
    intro d m o h _
    obtain ⟨c, hc, rfl⟩ := map_eq_ok_iff.mp h
    exact Draft.readContent_eq_ok_iff.mpr ⟨c, hc, rfl⟩

/-! ### Reading nodes -/

theorem read_object_eq_ok_iff {members : List (Doc × Doc)} {closed : Bool} :
    read (levels + 1) (.object members closed) = .ok n ↔
      closed = true ∧ ∃ d, members.foldlM (Draft.readMember levels (readAll levels)) Draft.empty = .ok d ∧ d.node = n := by
  simp only [read, bind_eq_ok_iff, Doc.close_eq_ok_iff, pure, Except.pure, Except.ok.injEq]
  constructor
  · rintro ⟨d, hd, _, hclosed, rfl⟩
    exact ⟨hclosed, d, hd, rfl⟩
  · rintro ⟨rfl, d, hd, rfl⟩
    exact ⟨d, hd, (), rfl, rfl⟩

theorem read_array_eq_ok_iff {items : List Doc} {closed : Bool} :
    read (levels + 1) (.array items closed) = .ok n ↔
      (closed = true ∧ items.length ≤ Member.inOrder.length) ∧
        ∃ d, (Member.inOrder.zip items).foldlM (fun d m => Draft.readContent levels (readAll levels) d m.1 m.2) Draft.empty =
          .ok d ∧ d.node = n := by
  simp only [read, Draft.readItems, bind_eq_ok_iff, Doc.close_eq_ok_iff, decide_eq_true_eq, pure, Except.pure,
    Except.ok.injEq]
  constructor
  · rintro ⟨d, ⟨d, hd, _, hlength, rfl⟩, _, hclosed, rfl⟩
    exact ⟨⟨hclosed, hlength⟩, d, hd, rfl⟩
  · rintro ⟨⟨hclosed, hlength⟩, d, hd, rfl⟩
    exact ⟨d, ⟨d, hd, (), hlength, rfl⟩, (), hclosed, rfl⟩

/-- A node is read from an object or an array, where a level is left. -/
theorem exists_of_read (h : read levels doc = .ok n) : ∃ below, levels = below + 1 ∧
    ((∃ members closed, doc = .object members closed) ∨ ∃ items closed, doc = .array items closed) := by
  cases doc with
  | object members closed =>
      cases levels with
      | zero => cases h
      | succ below => exact ⟨below, rfl, .inl ⟨members, closed, rfl⟩⟩
  | array items closed =>
      cases levels with
      | zero => cases h
      | succ below => exact ⟨below, rfl, .inr ⟨items, closed, rfl⟩⟩
  | null | bool | number | string | broken => cases levels <;> exact absurd h (Doc.wrongKind_ne_ok _ _ _)

/-- What a node that is read has for a member was read for this member, or it is blank. -/
theorem content_of_read (h : read levels doc = .ok n) : ∃ below, levels = below + 1 ∧
    ∀ k, (n.content k).IsBlank ∨ ∃ x, readContent below (readAll below) k x = .ok (n.content k) := by
  obtain ⟨below, rfl, hdoc⟩ := exists_of_read h
  refine ⟨below, rfl, fun k => ?_⟩
  have hblank {d : Draft} (hnone : d.get? k = none) : (d.node.content k).IsBlank := by
    rw [Draft.content_node, hnone]
    exact Content.isBlank_blank k
  have hsome {d : Draft} {c : Content} (hc : d.get? k = some c) : d.node.content k = c := by
    rw [Draft.content_node, hc, Option.getD_some]
  obtain ⟨members, closed, rfl⟩ | ⟨items, closed, rfl⟩ := hdoc
  · obtain ⟨_, d, hd, rfl⟩ := read_object_eq_ok_iff.mp h
    cases hc : d.get? k with
    | none => exact .inl (hblank hc)
    | some c =>
        obtain hempty | ⟨m, _, hm, hk⟩ := (reads_readMember below (readAll below)).get?_foldlM hd hc
        · cases (Draft.get?_empty k).symm.trans hempty
        · obtain ⟨j, _, hread⟩ := Json.Naming.gives_eq_some_iff.mp hm
          obtain rfl : j = k := (member_of_readContent hread).symm.trans hk
          exact .inr ⟨m.2, hsome hc ▸ hread⟩
  · obtain ⟨_, d, hd, rfl⟩ := read_array_eq_ok_iff.mp h
    cases hc : d.get? k with
    | none => exact .inl (hblank hc)
    | some c =>
        obtain hempty | ⟨m, _, hm, hk⟩ := (reads_readContent below (readAll below)).get?_foldlM hd hc
        · cases (Draft.get?_empty k).symm.trans hempty
        · obtain ⟨c', hread, heq⟩ := map_eq_ok_iff.mp hm
          obtain rfl := Option.some.inj heq
          obtain rfl : m.1 = k := (member_of_readContent hread).symm.trans hk
          exact .inr ⟨m.2, hsome hc ▸ hread⟩

/-- Nodes are read from the items of an array, where a level is left. -/
theorem readAll_eq_ok_iff {ns : List FilterNode} : readAll levels doc = .ok ns ↔
    ∃ below items, levels = below + 1 ∧ doc = .array items true ∧ List.Forall₂ (fun x n => read below x = .ok n) items ns := by
  constructor
  · intro h
    cases doc with
    | array items closed =>
        cases levels with
        | zero => cases h
        | succ below =>
            simp only [readAll, bind_eq_ok_iff, mapM_eq_ok_iff, Doc.close_eq_ok_iff, pure, Except.pure, Except.ok.injEq] at h
            obtain ⟨_, hitems, _, rfl, rfl⟩ := h
            exact ⟨below, items, rfl, rfl, hitems⟩
    | null | bool | number | string | object | broken => cases levels <;> exact absurd h (Doc.wrongKind_ne_ok _ _ _)
  · rintro ⟨below, items, rfl, rfl, hitems⟩
    rw [readAll, mapM_eq_ok_iff.mpr hitems]
    rfl

end FilterQuery.FilterNode

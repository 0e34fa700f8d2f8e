import FilterQuery.Proofs.Json.Drafts
import FilterQuery.Proofs.Json.Written
import FilterQuery.Row.AttributeJson

/-!
Attributes survive their JSON. An object spells an attribute when each of its members tells what is so of the attribute, under
any of the member's names, or is skipped; no member may occur twice, and only the flag may be missing. What is spelled is read,
and what is written spells the attribute, so a list that is read from any text is read again from its own. -/

namespace FilterQuery.Attribute

open Json (Doc Naming Reader)

inductive Content
  | column (s : String)
  | kind (k : CellKind)
  | isUniqueId (b : Bool)

def Content.member : Content → Member
  | column _ => .column
  | kind _ => .kind
  | isUniqueId _ => .isUniqueId

def content (a : Attribute) : Member → Content
  | .column => .column a.column
  | .kind => .kind a.kind
  | .isUniqueId => .isUniqueId a.isUniqueId

def Member.names : Member → List String
  | column => ["externalId", "external_id"]
  | kind => ["type"]
  | isUniqueId => ["isUniqueId", "is_unique_id"]

def memberOf? (name : Doc) : Option Member :=
  name.name?.bind Member.ofName?

def given (members : List (Doc × Doc)) : List Member :=
  members.filterMap fun m => memberOf? m.1

/-- The content of a member tells what is so of an attribute. -/
inductive Tells (a : Attribute) : Member → Doc → Prop
  | column : Tells a .column (.string (some a.column))
  | kind {spelling : String} (h : (spelling, a.kind) ∈ CellKind.byName) : Tells a .kind (.string (some spelling))
  | taggedKind {spelling : String} (h : (spelling, a.kind) ∈ CellKind.byName) :
      Tells a .kind (.object [(.string (some spelling), .null)] true)
  | isUniqueId : Tells a .isUniqueId (.bool a.isUniqueId)

/-- A member of an object agrees with an attribute: it tells what is so, under one of its names, or it is none of an
attribute's own, and then it only has to be whole. -/
inductive Agrees (a : Attribute) : Doc × Doc → Prop
  | own {name : String} {k : Member} {x : Doc} (hname : name ∈ k.names) (hx : Tells a k x) : Agrees a (.string (some name), x)
  | skipped {name : String} {x : Doc} (hname : ∀ k : Member, name ∉ k.names) (hx : x.isWellFormed = true) :
      Agrees a (.string (some name), x)

/-- The members of an object spell an attribute. -/
structure Spells (members : List (Doc × Doc)) (a : Attribute) : Prop where
  agrees : ∀ m ∈ members, Agrees a m
  distinct : (given members).Nodup
  column : .column ∈ given members
  kind : .kind ∈ given members
  isUniqueId : .isUniqueId ∈ given members ∨ a.isUniqueId = false

variable {a : Attribute} {attributes : List Attribute} {k : Member} {c : Content} {levels : Nat} {doc : Doc} {m : Doc × Doc}
  {members : List (Doc × Doc)}

/-! ### Drafts -/

namespace Draft

def get? (d : Draft) : Member → Option Content
  | .column => d.column.map .column
  | .kind => d.kind.map .kind
  | .isUniqueId => d.isUniqueId.map .isUniqueId

def put (d : Draft) : Content → Draft
  | .column s => { d with column := some s }
  | .kind k => { d with kind := some k }
  | .isUniqueId b => { d with isUniqueId := some b }

def places : Json.Places Draft Member Content where
  get? := get?
  put := put
  kind := Content.member
  get?_put_self d c := by cases c <;> rfl
  get?_put_of_ne d c k h := by cases c <;> cases k <;> first | rfl | exact absurd rfl h

theorem get?_empty (k : Member) : empty.get? k = none := by
  cases k <;> rfl

theorem has_eq (d : Draft) (k : Member) : d.has k = (d.get? k).isSome := by
  cases k <;> exact Option.isSome_map.symm

end Draft

/-! ### Reading members -/

def readContent (levels : Nat) (k : Member) : Reader Content := fun doc =>
  match k with
  | .column => doc.readString.map .column
  | .kind => (readKind levels doc).map .kind
  | .isUniqueId => doc.readBool.map .isUniqueId

/-- How the members of an object are read: one that is not known only has to be whole. -/
def naming (levels : Nat) : Naming Member Content where
  ofName? := Member.ofName?
  unknown _ := Doc.skip
  content := readContent levels
  duplicate k := .duplicateMember k.name

theorem member_of_readContent (h : readContent levels k doc = .ok c) : c.member = k := by
  cases k <;> obtain ⟨_, _, rfl⟩ := map_eq_ok_iff.mp h <;> rfl

theorem Draft.readContent_eq (d : Draft) (k : Member) (doc : Doc) :
    Draft.readContent levels d k doc = (Attribute.readContent levels k doc).map d.put := by
  cases k with
  | column => cases h : doc.readString <;> simp only [Draft.readContent, Attribute.readContent, h] <;> rfl
  | kind => cases h : readKind levels doc <;> simp only [Draft.readContent, Attribute.readContent, h] <;> rfl
  | isUniqueId => cases h : doc.readBool <;> simp only [Draft.readContent, Attribute.readContent, h] <;> rfl

theorem Draft.readMember_eq_step : Draft.readMember levels = (naming levels).step Draft.places := by
  funext d m
  rw [Draft.readMember, Naming.step]
  congr
  funext name
  cases h : Member.ofName? name with
  | none => simp only [naming, h]
  | some k =>
      simp only [naming, h, has_eq, readContent_eq]
      rfl

theorem isFor_naming : (naming levels).IsFor Draft.places :=
  fun _ _ _ => member_of_readContent

/-! ### Reading what is spelled -/

theorem ofName?_eq_some_iff {name : String} : Member.ofName? name = some k ↔ name ∈ k.names := by
  cases k <;> simp only [Member.ofName?, Member.names, List.mem_cons, List.not_mem_nil, or_false] <;> grind

theorem ofName?_eq_none_iff {name : String} : Member.ofName? name = none ↔ ∀ k : Member, name ∉ k.names := by
  rw [Option.eq_none_iff_forall_ne_some]
  exact forall_congr' fun k => not_congr ofName?_eq_some_iff

theorem kindOfName_eq_ok_iff {s : String} {kind : CellKind} : kindOfName s = .ok kind ↔ (s, kind) ∈ CellKind.byName := by
  have hall : ∀ p ∈ CellKind.byName, CellKind.ofName? p.1 = some p.2 := by decide
  have hname : CellKind.ofName? s = some kind ↔ (s, kind) ∈ CellKind.byName := by
    refine ⟨fun h => ?_, fun h => hall (s, kind) h⟩
    obtain ⟨before, after, heq, _⟩ := List.lookup_eq_some_iff.mp h
    rw [heq]
    exact List.mem_append_right before List.mem_cons_self
  rw [← hname, kindOfName]
  cases CellKind.ofName? s <;> simp

/-- A kind is read from one of its names, by itself or in an object that says no more. -/
theorem readKind_eq_ok_iff {kind : CellKind} : readKind (levels + 1) doc = .ok kind ↔
    ∃ s, (s, kind) ∈ CellKind.byName ∧ (doc = .string (some s) ∨ doc = .object [(.string (some s), .null)] true) := by
  cases doc with
  | null | bool | number | array | broken => simp [readKind]
  | string text =>
      cases text with
      | none => simp [readKind]
      | some s => simp [readKind, kindOfName_eq_ok_iff]
  | object members closed =>
      cases members with
      | nil => simp [readKind, Doc.enter, bind, Except.bind]
      | cons m members =>
          obtain ⟨name, x⟩ := m
          -- only null ends the object that names a kind
          obtain ⟨last, hread, hlast⟩ : ∃ last : Except Json.Fault Unit,
              readKind (levels + 1) (.object ((name, x) :: members) closed) =
                (name.readMemberName >>= fun s => kindOfName s >>= fun kind => last >>= fun _ => .ok kind) ∧
              ∀ u, last = .ok u ↔ x = .null ∧ closed = true ∧ members = [] := by
            cases x <;> exact ⟨_, rfl, by simp [Doc.wrongKind_ne_ok, Doc.close_eq_ok_iff]⟩
          simp only [hread, bind_eq_ok_iff, Doc.readMemberName_eq_ok_iff, Doc.name?_eq_some_iff, kindOfName_eq_ok_iff, hlast]
          constructor
          · rintro ⟨s, rfl, kind, h, _, ⟨rfl, rfl, rfl⟩, ⟨⟩⟩
            exact ⟨s, h, .inr rfl⟩
          · rintro ⟨s, h, hdoc⟩
            simp only [reduceCtorEq, Doc.object.injEq, List.cons.injEq, Prod.mk.injEq, false_or] at hdoc
            obtain ⟨⟨⟨rfl, rfl⟩, rfl⟩, rfl⟩ := hdoc
            exact ⟨s, rfl, kind, h, (), ⟨rfl, rfl, rfl⟩, rfl⟩

theorem readContent_eq_ok_iff : readContent (levels + 1) k doc = .ok (a.content k) ↔ Tells a k doc := by
  cases k with
  | column =>
      simp only [readContent, content, map_eq_ok_iff, Doc.readString_eq_ok_iff]
      constructor
      · rintro ⟨s, rfl, ⟨⟩⟩
        exact .column
      · rintro ⟨⟩
        exact ⟨_, rfl, rfl⟩
  | kind =>
      simp only [readContent, content, map_eq_ok_iff, readKind_eq_ok_iff]
      constructor
      · rintro ⟨_, ⟨s, h, rfl | rfl⟩, ⟨⟩⟩
        · exact .kind h
        · exact .taggedKind h
      · intro h
        cases h with
        | kind h => exact ⟨_, ⟨_, h, .inl rfl⟩, rfl⟩
        | taggedKind h => exact ⟨_, ⟨_, h, .inr rfl⟩, rfl⟩
  | isUniqueId =>
      simp only [readContent, content, map_eq_ok_iff, Doc.readBool_eq_ok_iff]
      constructor
      · rintro ⟨s, rfl, ⟨⟩⟩
        exact .isUniqueId
      · rintro ⟨⟩
        exact ⟨_, rfl, rfl⟩

/-- A member gives the attribute's content exactly when it agrees with the attribute. -/
theorem gives_iff_agrees : (naming (levels + 1)).gives m = .ok ((memberOf? m.1).map a.content) ↔ Agrees a m := by
  obtain ⟨name, x⟩ := m
  have hskip {u : Unit} : x.skip = .ok u ↔ x.isWellFormed = true := by simp [Doc.skip]
  constructor
  · intro h
    obtain ⟨s, hs⟩ := Naming.exists_name_of_gives h
    obtain rfl := Doc.name?_eq_some_iff.mp hs
    have hmember : memberOf? (.string (some s)) = Member.ofName? s := rfl
    cases hk : Member.ofName? s with
    | none =>
        rw [Naming.gives_of_unknown hs hk] at h
        obtain ⟨_, hx, _⟩ := map_eq_ok_iff.mp h
        exact .skipped (ofName?_eq_none_iff.mp hk) (hskip.mp hx)
    | some k =>
        rw [Naming.gives_of_known hs hk, hmember, hk] at h
        obtain ⟨_, hc, ⟨⟩⟩ := map_eq_ok_iff.mp h
        exact .own (ofName?_eq_some_iff.mp hk) (readContent_eq_ok_iff.mp hc)
  · intro h
    cases h with
    | @own s k _ hname hx =>
        have hk := ofName?_eq_some_iff.mpr hname
        have hmember : memberOf? (.string (some s)) = some k := hk
        rw [Naming.gives_of_known rfl hk, hmember]
        exact map_eq_ok_iff.mpr ⟨_, readContent_eq_ok_iff.mpr hx, rfl⟩
    | @skipped s _ hname hx =>
        have hk := ofName?_eq_none_iff.mpr hname
        have hmember : memberOf? (.string (some s)) = none := hk
        rw [Naming.gives_of_unknown rfl hk, hmember]
        exact map_eq_ok_iff.mpr ⟨(), hskip.mpr hx, rfl⟩

/-- A draft is finished as an attribute when it holds nothing but what is so of it, and no more than the flag is missing. -/
theorem Draft.finish_eq_ok_iff {d : Draft} : d.finish = .ok a ↔ (∀ k c, d.get? k = some c → c = a.content k) ∧
    d.get? .column ≠ none ∧ d.get? .kind ≠ none ∧ (d.get? .isUniqueId ≠ none ∨ a.isUniqueId = false) := by
  have hmembers {p : Member → Prop} : (∀ k, p k) ↔ p .column ∧ p .kind ∧ p .isUniqueId :=
    ⟨fun h => ⟨h _, h _, h _⟩, fun ⟨hcolumn, hkind, hflag⟩ k => by cases k <;> assumption⟩
  obtain ⟨s, k, b⟩ := a
  obtain ⟨column, kind, isUniqueId⟩ := d
  rw [hmembers]
  cases column <;> cases kind <;> cases isUniqueId <;> simp [finish, get?, content, and_assoc, eq_comm]

/-- An object is read as an attribute exactly when it spells it. -/
theorem read_object_eq_ok_iff {closed : Bool} :
    read (levels + 2) (.object members closed) = .ok a ↔ closed = true ∧ Spells members a := by
  have hread : read (levels + 2) (.object members closed) = (members.foldlM (Draft.readMember (levels + 1)) Draft.empty >>=
      fun d => Doc.close closed >>= fun _ => d.finish) := rfl
  have hempty : ∀ k, Draft.places.get? Draft.empty k = none := Draft.get?_empty
  have hfor : (naming (levels + 1)).IsFor Draft.places := isFor_naming
  have hgiven {d : Draft} (hd : members.foldlM ((naming (levels + 1)).step Draft.places) Draft.empty = .ok d) (k : Member) :
      d.get? k ≠ none ↔ k ∈ given members :=
    (not_congr (Naming.get?_foldlM_eq_none_iff hfor hempty hd)).trans not_not
  simp only [hread, bind_eq_ok_iff, Doc.close_eq_ok_iff, Draft.finish_eq_ok_iff, Draft.readMember_eq_step]
  constructor
  · rintro ⟨d, hd, _, rfl, hcontent, hcolumn, hkind, hflag⟩
    obtain ⟨hdistinct, hgives⟩ := (Naming.exists_foldlM_iff hfor hempty).mp ⟨d, hd⟩
    refine ⟨rfl, fun m hm => ?_, hdistinct, (hgiven hd _).mp hcolumn, (hgiven hd _).mp hkind, hflag.imp_left (hgiven hd _).mp⟩
    obtain ⟨o, ho⟩ := hgives m hm
    have hmember : memberOf? m.1 = o.map Content.member := Naming.kindOf?_of_gives hfor ho
    rw [← gives_iff_agrees, ho, hmember]
    cases o with
    | none => rfl
    | some c =>
        have hc := hcontent c.member c ((Naming.get?_foldlM_iff hfor hempty hd).mpr ⟨m, hm, ho, rfl⟩)
        rw [Option.map_some, Option.map_some, ← hc]
  · rintro ⟨rfl, h⟩
    obtain ⟨d, hd⟩ := (Naming.exists_foldlM_iff hfor hempty).mpr
      ⟨h.distinct, fun m hm => ⟨_, gives_iff_agrees.mpr (h.agrees m hm)⟩⟩
    refine ⟨d, hd, (), rfl, fun k c hc => ?_, (hgiven hd _).mpr h.column, (hgiven hd _).mpr h.kind,
      h.isUniqueId.imp_left (hgiven hd _).mpr⟩
    obtain ⟨m, hm, hgives, hk⟩ := (Naming.get?_foldlM_iff hfor hempty hd).mp hc
    rw [gives_iff_agrees.mpr (h.agrees m hm)] at hgives
    obtain ⟨j, _, rfl⟩ := Option.map_eq_some_iff.mp (Except.ok.inj hgives)
    rw [← hk]
    cases j <;> rfl

/-- An array of objects is read as a list of attributes exactly when they spell them, one by one. -/
theorem ofJson_eq_ok_iff_spells {text : String} {objects : List (List (Doc × Doc))}
    (htext : Doc.ofText text.toList = (.array (objects.map fun members => .object members true) true, true)) :
    ofJson text = .ok attributes ↔ List.Forall₂ Spells objects attributes := by
  have hread (items : List Doc) : readAll Json.maxDepth (.array items true) = (items.mapM (read 126) >>= .ok) := rfl
  have hobject (members : List (Doc × Doc)) (a : Attribute) : read 126 (.object members true) = .ok a ↔ Spells members a :=
    read_object_eq_ok_iff.trans (and_iff_right rfl)
  rw [ofJson, Json.read_of_ofText htext, hread, bind_eq_ok_iff]
  simp only [Except.ok.injEq, exists_eq_right, mapM_eq_ok_iff, List.forall₂_map_left_iff, hobject]

/-! ### Reading what is written -/

theorem name_mem_byName (kind : CellKind) : (kind.name, kind) ∈ CellKind.byName := by
  cases kind <;> decide

def written (a : Attribute) : List (Doc × Doc) :=
  [(.string (some "externalId"), .string (some a.column)), (.string (some "type"), .string (some a.kind.name)),
    (.string (some "isUniqueId"), .bool a.isUniqueId)]

/-- What is written for an attribute spells it. -/
theorem spells_written (a : Attribute) : Spells a.written a := by
  have hgiven : given a.written = [.column, .kind, .isUniqueId] := rfl
  refine ⟨?_, by simp [hgiven], by simp [hgiven], by simp [hgiven], by simp [hgiven]⟩
  simp only [written, List.forall_mem_cons]
  exact ⟨.own (.head _) .column, .own (.head _) (.kind (name_mem_byName a.kind)), .own (.head _) .isUniqueId, nofun⟩

theorem hasNumbers_toJson (a : Attribute) : a.toJson.HasNumbers := by
  refine .object ?_
  simp only [List.forall_mem_cons]
  exact ⟨.string _, .string _, .bool _, nofun⟩

/-- A list of attributes is read from its own text. -/
theorem ofJson_listToJson (attributes : List Attribute) : ofJson (listToJson attributes) = .ok attributes := by
  have hnumbers : (Json.Tree.array (attributes.map toJson)).HasNumbers :=
    .array (List.forall_mem_map.mpr fun a _ => hasNumbers_toJson a)
  have htext : Doc.ofText (listToJson attributes).toList =
      (.array ((attributes.map written).map fun members => .object members true) true, true) := by
    rw [listToJson, Json.Tree.ofText_compact hnumbers, Json.Tree.doc, Json.Tree.docOfItems_eq_map, List.map_map, List.map_map]
    rfl
  rw [ofJson_eq_ok_iff_spells htext, List.forall₂_map_left_iff, List.forall₂_same]
  exact fun a _ => spells_written a

/-- Lists of attributes are read from their own text, and from an array of objects just when these spell them. What is read from
a text, however it is spelled, is read again from what is then written, with the same unique id, and written again as the same
text. -/
theorem ofJson_of_any_spelling :
    (∀ attributes, ofJson (listToJson attributes) = .ok attributes) ∧
      (∀ (text : String) objects attributes,
        Doc.ofText text.toList = (.array (objects.map fun members => .object members true) true, true) →
          (ofJson text = .ok attributes ↔ List.Forall₂ Spells objects attributes)) ∧
      ∀ text attributes, ofJson text = .ok attributes → ∃ again, ofJson (listToJson attributes) = .ok again ∧
        again = attributes ∧ firstUniqueId again = firstUniqueId attributes ∧ listToJson again = listToJson attributes :=
  ⟨ofJson_listToJson, fun _ _ _ htext => ofJson_eq_ok_iff_spells htext,
    fun _ attributes _ => ⟨attributes, ofJson_listToJson attributes, rfl, rfl, rfl⟩⟩

/-- Second names, a member that is none of an attribute's own, and a flag left out. -/
theorem ofJson_of_second_names :
    let first : Json.Tree := .object [("type", .string "integer"), ("is_unique_id", .bool true), ("external_id", .string "id")]
    let second : Json.Tree := .object [("note", .array []), ("externalId", .string "a"), ("type", .string "bool")]
    let text := String.ofList (Json.Tree.array [first, second]).compact
    let attributes : List Attribute := [⟨"id", .int64, true⟩, ⟨"a", .boolean, false⟩]
    ofJson text = .ok attributes ∧ text ≠ listToJson attributes ∧
      ∃ again, ofJson (listToJson attributes) = .ok again ∧ firstUniqueId again = .ok ⟨"id", .int64, true⟩ := by
  intro first second text attributes
  have hnumbers : (Json.Tree.array [first, second]).HasNumbers := by
    refine .array ?_
    simp only [first, second, List.forall_mem_cons]
    refine ⟨.object ?_, .object ?_, nofun⟩ <;> simp only [List.forall_mem_cons]
    · exact ⟨.string _, .bool _, .string _, nofun⟩
    · exact ⟨.array nofun, .string _, .string _, nofun⟩
  let firstMembers : List (Doc × Doc) := [(.string (some "type"), .string (some "integer")),
    (.string (some "is_unique_id"), .bool true), (.string (some "external_id"), .string (some "id"))]
  let secondMembers : List (Doc × Doc) := [(.string (some "note"), .array [] true),
    (.string (some "externalId"), .string (some "a")), (.string (some "type"), .string (some "bool"))]
  have hfirst : Spells firstMembers ⟨"id", .int64, true⟩ := by
    have hgiven : given firstMembers = [.kind, .isUniqueId, .column] := rfl
    refine ⟨?_, by simp [hgiven], by simp [hgiven], by simp [hgiven], by simp [hgiven]⟩
    simp only [firstMembers, List.forall_mem_cons]
    exact ⟨.own (.head _) (.kind (by decide)), .own (.tail _ (.head _)) .isUniqueId, .own (.tail _ (.head _)) .column, nofun⟩
  have hsecond : Spells secondMembers ⟨"a", .boolean, false⟩ := by
    have hgiven : given secondMembers = [.column, .kind] := rfl
    refine ⟨?_, by simp [hgiven], by simp [hgiven], by simp [hgiven], .inr rfl⟩
    simp only [secondMembers, List.forall_mem_cons]
    refine ⟨.skipped (fun k => ?_) rfl, .own (.head _) .column, .own (.head _) (.kind (by decide)), nofun⟩
    cases k <;> decide
  obtain ⟨_, hspelled, hagain⟩ := ofJson_of_any_spelling
  have hread : ofJson text = .ok attributes := (hspelled text [firstMembers, secondMembers] attributes
    (Json.Tree.ofText_compact hnumbers)).mpr (.cons hfirst (.cons hsecond .nil))
  obtain ⟨again, hwritten, _, hunique, _⟩ := hagain text attributes hread
  exact ⟨hread, by decide +kernel, again, hwritten, hunique⟩

end FilterQuery.Attribute

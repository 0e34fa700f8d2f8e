import FilterQuery.Proofs.Filter.Contents

/-!
What a document says as a node, without the order of its members and without limits. Every member must be known and must tell
something; the content of the node is what its members tell, and what is blank may be told or not. A document that gives no
member of a node twice is read as the node that it says, where the levels are enough for it. -/

namespace FilterQuery.FilterNode

open Json (Doc)

variable {n : FilterNode} {levels depth : Nat} {d x : Doc} {k : Member} {c : Content}

/-! ### The members of a document -/

/-- A document has a content for a member: under its name in an object, or at its place in an array. -/
inductive HasMember : Doc → Member → Doc → Prop
  | named {members : List (Doc × Doc)} {closed : Bool} {m : Doc × Doc} {k : Member} (hm : m ∈ members)
      (hk : memberOf? m.1 = some k) : HasMember (.object members closed) k m.2
  | placed {items : List Doc} {closed : Bool} {k : Member} {x : Doc} (h : (k, x) ∈ Member.inOrder.zip items) :
      HasMember (.array items closed) k x

/-- A whole object or array that has nothing but members of a node. -/
def IsNode : Doc → Prop
  | .object members closed => closed = true ∧ ∀ m ∈ members, ∃ k, memberOf? m.1 = some k
  | .array items closed => closed = true ∧ items.length ≤ Member.inOrder.length
  | _ => False

/-- A document describes a node, where it is known what the contents of members tell: they all tell something, and what they
tell, as far as it is not blank, is what the node has. -/
structure Describes (tells : Member → Doc → Content → Prop) (d : Doc) (n : FilterNode) : Prop where
  isNode : IsNode d
  told : ∀ k x, HasMember d k x → ∃ c, tells k x c
  content_iff : ∀ c, ¬c.IsBlank → (n.content c.member = c ↔ ∃ x, HasMember d c.member x ∧ tells c.member x c)

/-- What the content of a member tells, where it is known what the parts of a group are. -/
def Tells (parts : Doc → List FilterNode → Prop) : Member → Doc → Content → Prop
  | .field, x, c => ∃ s, x = .string (some s) ∧ .field s = c
  | .operator, x, c => ∃ s, x = .string (some s) ∧ .operator s = c
  | .value, x, c => ∃ v, x.readOption (Value.read x.nesting) = .ok v ∧ .value v = c
  | .all, x, c => ∃ ns, parts x ns ∧ .all ns = c
  | .any, x, c => ∃ ns, parts x ns ∧ .any ns = c

/-- What the content of a group says, where it is known what each part says. -/
def DenotesEach (denotes : Doc → FilterNode → Prop) (x : Doc) (ns : List FilterNode) : Prop :=
  ∃ items, x = .array items true ∧ List.Forall₂ denotes items ns

/-- What a document says as a node, with so many nodes inside one another. -/
def Denotes : Nat → Doc → FilterNode → Prop
  | 0, _, _ => False
  | depth + 1, d, n => Describes (Tells (DenotesEach (Denotes depth))) d n

/-- A document stands where the part of a group is expected. -/
def IsPartOf (x d : Doc) : Prop :=
  ∃ k items closed, (k = .all ∨ k = .any) ∧ HasMember d k (.array items closed) ∧ x ∈ items

/-- No member occurs twice in an object, under whichever name. -/
def Distinct : Doc → Prop
  | .object members _ => (members.filterMap fun m => memberOf? m.1).Nodup
  | _ => True

/-- No node in the document has a member twice. -/
inductive NoRepeats : Doc → Prop
  | intro {d : Doc} (hself : Distinct d) (hparts : ∀ x, IsPartOf x d → NoRepeats x) : NoRepeats d

/-! ### Nodes by what is not blank -/

/-- Nodes that have the same content wherever it is not blank are the same. -/
theorem ext_of_not_isBlank {n' : FilterNode}
    (h : ∀ c : Content, ¬c.IsBlank → (n.content c.member = c ↔ n'.content c.member = c)) : n = n' := by
  have hblank {m : FilterNode} {k : Member} (hm : (m.content k).IsBlank) : m.content k = .blank k := by
    rwa [Content.IsBlank, member_content] at hm
  refine ext_content fun k => ?_
  by_cases hn : (n.content k).IsBlank
  · by_cases hn' : (n'.content k).IsBlank
    · rw [hblank hn, hblank hn']
    · have hsame := h _ hn'
      rw [member_content] at hsame
      exact hsame.mpr rfl
  · have hsame := h _ hn
    rw [member_content] at hsame
    exact (hsame.mp rfl).symm

theorem Draft.content_node_iff {t : Draft} (hc : ¬c.IsBlank) : t.node.content c.member = c ↔ t.get? c.member = some c := by
  rw [Draft.content_node]
  cases t.get? c.member with
  | none => exact iff_of_false (fun h => hc h.symm) nofun
  | some c' => exact Option.some_inj.symm

/-- A draft is filled with what the members give, and the node has nothing else. -/
theorem exists_draft_iff {β : Type} {step : Draft → β → Except Json.Fault Draft}
    {gives : β → Except Json.Fault (Option Content)} (hreads : Draft.places.Reads step gives) {members : List β}
    (hapart : Draft.places.Apart gives members) :
    (∃ t, members.foldlM step Draft.empty = .ok t ∧ t.node = n) ↔ (∀ m ∈ members, ∃ o, gives m = .ok o) ∧
      ∀ c, ¬c.IsBlank → (n.content c.member = c ↔ ∃ m ∈ members, gives m = .ok (some c)) := by
  have hfree : ∀ m ∈ members, ∀ c, gives m = .ok (some c) → Draft.places.get? Draft.empty (Draft.places.kind c) = none :=
    fun _ _ c _ => Draft.get?_empty c.member
  have hnode {t : Draft} (ht : members.foldlM step Draft.empty = .ok t) {c : Content} (hc : ¬c.IsBlank) :
      t.node.content c.member = c ↔ ∃ m ∈ members, gives m = .ok (some c) := by
    rw [Draft.content_node_iff hc]
    refine (hreads.get?_foldlM_iff hapart hfree ht c.member c).trans ?_
    simp [Draft.places, Draft.get?_empty]
  constructor
  · rintro ⟨t, ht, rfl⟩
    exact ⟨(hreads.exists_foldlM_iff hapart hfree).mp ⟨t, ht⟩, fun c => hnode ht⟩
  · rintro ⟨hall, hcontent⟩
    obtain ⟨t, ht⟩ := (hreads.exists_foldlM_iff hapart hfree).mpr hall
    exact ⟨t, ht, ext_of_not_isBlank fun c hc => (hnode ht hc).trans (hcontent c hc).symm⟩

/-! ### One node of a document -/

/-- What the content of a member is read as, with so many levels left. -/
def ReadsAs (levels : Nat) (k : Member) (x : Doc) (c : Content) : Prop :=
  readContent levels (readAll levels) k x = .ok c

theorem pairwise_fst_zip {α β : Type} {l : List α} (h : l.Nodup) (m : List β) :
    (l.zip m).Pairwise fun a b => a.1 ≠ b.1 := by
  induction h generalizing m with
  | nil => exact .nil
  | cons hhead _ ih =>
      cases m with
      | nil => exact .nil
      | cons b m => exact .cons (fun ab hab => hhead ab.1 (List.of_mem_zip hab).1) (ih m)

/-- An object that gives no member twice is read as the node that it describes. -/
theorem read_object_iff_describes {members : List (Doc × Doc)} {closed : Bool} (hdistinct : Distinct (.object members closed)) :
    read (levels + 1) (.object members closed) = .ok n ↔ Describes (ReadsAs levels) (.object members closed) n := by
  have hapart : Draft.places.Apart (naming levels (readAll levels)).gives members :=
    Json.Naming.apart_of_nodup isFor_naming hdistinct
  have hgives (c : Content) : (∃ m ∈ members, (naming levels (readAll levels)).gives m = .ok (some c)) ↔
      ∃ x, HasMember (.object members closed) c.member x ∧ ReadsAs levels c.member x c := by
    constructor
    · rintro ⟨m, hm, hgives⟩
      obtain ⟨k, hk, hc⟩ := Json.Naming.gives_eq_some_iff.mp hgives
      obtain rfl := member_of_readContent hc
      exact ⟨m.2, .named hm hk, hc⟩
    · rintro ⟨_, ⟨hm, hk⟩, hc⟩
      exact ⟨_, hm, Json.Naming.gives_eq_some_iff.mpr ⟨_, hk, hc⟩⟩
  rw [read_object_eq_ok_iff, exists_draft_iff (reads_readMember levels (readAll levels)) hapart]
  simp only [hgives]
  constructor
  · rintro ⟨hclosed, hall, hcontent⟩
    refine ⟨⟨hclosed, fun m hm => ?_⟩, ?_, hcontent⟩
    · obtain ⟨_, hm⟩ := hall m hm
      obtain ⟨k, _, hk, _⟩ := gives_eq_ok_iff.mp hm
      exact ⟨k, hk⟩
    · rintro _ _ ⟨hm, hk⟩
      obtain ⟨_, hgives⟩ := hall _ hm
      obtain ⟨_, c, hk', hc, _⟩ := gives_eq_ok_iff.mp hgives
      obtain rfl := Option.some.inj (hk.symm.trans hk')
      exact ⟨c, hc⟩
  · rintro ⟨⟨hclosed, hknown⟩, htold, hcontent⟩
    refine ⟨hclosed, fun m hm => ?_, hcontent⟩
    obtain ⟨k, hk⟩ := hknown m hm
    obtain ⟨c, hc⟩ := htold k m.2 (.named hm hk)
    exact ⟨some c, gives_eq_ok_iff.mpr ⟨k, c, hk, hc, rfl⟩⟩

/-- An array is read as the node that it describes. -/
theorem read_array_iff_describes {items : List Doc} {closed : Bool} :
    read (levels + 1) (.array items closed) = .ok n ↔ Describes (ReadsAs levels) (.array items closed) n := by
  have hinOrder : Member.inOrder.Nodup := by simp [Member.inOrder]
  have hapart : Draft.places.Apart (readPlaced levels (readAll levels)) (Member.inOrder.zip items) := by
    refine (pairwise_fst_zip hinOrder items).imp ?_
    intro m m' hne c c' hm hm'
    obtain ⟨_, hc, ⟨⟩⟩ := map_eq_ok_iff.mp hm
    obtain ⟨_, hc', ⟨⟩⟩ := map_eq_ok_iff.mp hm'
    have hkind : c.member = m.1 := member_of_readContent hc
    have hkind' : c'.member = m'.1 := member_of_readContent hc'
    exact fun h => hne (hkind.symm.trans (h.trans hkind'))
  have hgives (c : Content) : (∃ m ∈ Member.inOrder.zip items, readPlaced levels (readAll levels) m = .ok (some c)) ↔
      ∃ x, HasMember (.array items closed) c.member x ∧ ReadsAs levels c.member x c := by
    constructor
    · rintro ⟨⟨k, x⟩, hm, hgives⟩
      obtain ⟨_, hc, ⟨⟩⟩ := map_eq_ok_iff.mp hgives
      obtain rfl : c.member = k := member_of_readContent hc
      exact ⟨x, .placed hm, hc⟩
    · rintro ⟨x, hx, hc⟩
      cases hx with
      | placed hm => exact ⟨_, hm, map_eq_ok_iff.mpr ⟨c, hc, rfl⟩⟩
  rw [read_array_eq_ok_iff, exists_draft_iff (reads_readContent levels (readAll levels)) hapart]
  simp only [hgives]
  constructor
  · rintro ⟨hnode, hall, hcontent⟩
    refine ⟨hnode, ?_, hcontent⟩
    intro k x hx
    cases hx with
    | placed hm =>
        obtain ⟨_, hgives⟩ := hall _ hm
        obtain ⟨c, hc, _⟩ := map_eq_ok_iff.mp hgives
        exact ⟨c, hc⟩
  · rintro ⟨hnode, htold, hcontent⟩
    refine ⟨hnode, fun m hm => ?_, hcontent⟩
    obtain ⟨c, hc⟩ := htold m.1 m.2 (.placed hm)
    exact ⟨some c, map_eq_ok_iff.mpr ⟨c, hc, rfl⟩⟩

/-- A document that gives no member twice is read as the node that it describes. -/
theorem read_iff_describes (hdistinct : Distinct d) : read (levels + 1) d = .ok n ↔ Describes (ReadsAs levels) d n := by
  cases d with
  | object => exact read_object_iff_describes hdistinct
  | array => exact read_array_iff_describes
  | null | bool | number | string | broken => exact iff_of_false (Doc.wrongKind_ne_ok _ _ _) fun h => h.isNode

/-! ### A document and its parts -/

theorem HasMember.nesting_lt (h : HasMember d k x) : x.nesting < d.nesting := by
  cases h with
  | named hm =>
      obtain ⟨below, hbelow, hmembers⟩ := Doc.nesting_object_le_iff.mp (Nat.le_refl (Doc.nesting _))
      rw [hbelow]
      exact Nat.lt_succ_of_le (hmembers _ hm).2
  | placed hm =>
      obtain ⟨below, hbelow, hitems⟩ := Doc.nesting_array_le_iff.mp (Nat.le_refl (Doc.nesting _))
      rw [hbelow]
      exact Nat.lt_succ_of_le (hitems _ (List.of_mem_zip hm).2)

theorem IsNode.nesting_ne_zero (h : IsNode d) : d.nesting ≠ 0 := by
  cases d with
  | object => rw [Doc.nesting]; exact Nat.succ_ne_zero _
  | array => rw [Doc.nesting]; exact Nat.succ_ne_zero _
  | null | bool | number | string | broken => exact h.elim

/-- What a document describes is known from what its own members tell. -/
theorem Describes.congr {tells tells' : Member → Doc → Content → Prop}
    (h : ∀ k x c, HasMember d k x → (tells k x c ↔ tells' k x c)) : Describes tells d n ↔ Describes tells' d n := by
  have hcontent (c : Content) : (∃ x, HasMember d c.member x ∧ tells c.member x c) ↔
      ∃ x, HasMember d c.member x ∧ tells' c.member x c :=
    exists_congr fun x => and_congr_right (h c.member x c)
  have htold : (∀ k x, HasMember d k x → ∃ c, tells k x c) ↔ ∀ k x, HasMember d k x → ∃ c, tells' k x c :=
    forall₃_congr fun k x hx => exists_congr fun c => h k x c hx
  exact ⟨fun ⟨hnode, htells, hn⟩ => ⟨hnode, htold.mp htells, fun c hc => (hn c hc).trans (hcontent c)⟩,
    fun ⟨hnode, htells, hn⟩ => ⟨hnode, htold.mpr htells, fun c hc => (hn c hc).trans (hcontent c).symm⟩⟩

theorem readValue_of_nesting_le (h : x.nesting ≤ levels) :
    x.readOption (Value.read levels) = x.readOption (Value.read x.nesting) := by
  have hread : Value.read levels x = Value.read x.nesting x := by
    rw [Value.read, Value.read, Doc.isReadable_of_nesting_le h (Nat.le_refl _)]
  cases x <;> simp only [Doc.readOption, hread]

/-- The content of a member is read as what it tells, where the levels are enough for it. -/
theorem readsAs_iff_tells {parts : Doc → List FilterNode → Prop} (hnesting : x.nesting ≤ levels)
    (hparts : k = .all ∨ k = .any → ∀ ns, readAll levels x = .ok ns ↔ parts x ns) :
    ReadsAs levels k x c ↔ Tells parts k x c := by
  cases k with
  | field | operator => simp only [ReadsAs, Tells, readContent, map_eq_ok_iff, Doc.readString_eq_ok_iff]
  | value => simp only [ReadsAs, Tells, readContent, map_eq_ok_iff, readValue_of_nesting_le hnesting]
  | all => simp only [ReadsAs, Tells, readContent, map_eq_ok_iff, hparts (.inl rfl)]
  | any => simp only [ReadsAs, Tells, readContent, map_eq_ok_iff, hparts (.inr rfl)]

theorem forall₂_congr_of_mem {α β : Type} {R S : α → β → Prop} {l : List α} {m : List β}
    (h : ∀ a ∈ l, ∀ b, R a b ↔ S a b) : List.Forall₂ R l m ↔ List.Forall₂ S l m := by
  simp only [List.forall₂_iff_zip]
  refine and_congr_right fun _ => ?_
  exact ⟨fun hR a b hab => (h a (List.of_mem_zip hab).1 b).mp (hR hab),
    fun hS a b hab => (h a (List.of_mem_zip hab).1 b).mpr (hS hab)⟩

/-- A document that gives no member of a node twice is read as the node that it says, where the levels are enough for it. -/
theorem read_iff_denotes (hrepeats : NoRepeats d) (hnesting : d.nesting ≤ levels) (hdepth : levels ≤ depth) :
    read levels d = .ok n ↔ Denotes depth d n := by
  induction depth generalizing levels d n with
  | zero =>
      obtain rfl := Nat.le_zero.mp hdepth
      refine iff_of_false (fun h => ?_) id
      obtain ⟨_, hlevels, _⟩ := exists_of_read h
      cases hlevels
  | succ depth ih =>
      obtain ⟨hself, hparts⟩ := hrepeats
      rw [Denotes]
      cases levels with
      | zero =>
          refine iff_of_false (fun h => ?_) fun h => h.isNode.nesting_ne_zero (Nat.le_zero.mp hnesting)
          obtain ⟨_, hlevels, _⟩ := exists_of_read h
          cases hlevels
      | succ levels =>
          rw [read_iff_describes hself]
          refine Describes.congr fun k x c hx => ?_
          have hbelow : x.nesting ≤ levels := Nat.lt_succ_iff.mp (Nat.lt_of_lt_of_le hx.nesting_lt hnesting)
          refine readsAs_iff_tells hbelow fun hk ns => ?_
          rw [readAll_eq_ok_iff]
          -- the parts of a group are read with two levels less, and say what they say with one depth less
          constructor
          · rintro ⟨below, items, rfl, rfl, hread⟩
            obtain ⟨_, heq, hitems⟩ := Doc.nesting_array_le_iff.mp hbelow
            obtain rfl := Nat.succ.inj heq
            refine ⟨items, rfl, (forall₂_congr_of_mem fun y hy m => ?_).mp hread⟩
            exact ih (hparts y ⟨k, items, true, hk, hx, hy⟩) (hitems y hy) (by omega)
          · rintro ⟨items, rfl, hdenotes⟩
            obtain ⟨below, rfl, hitems⟩ := Doc.nesting_array_le_iff.mp hbelow
            refine ⟨below, items, rfl, rfl, (forall₂_congr_of_mem fun y hy m => ?_).mpr hdenotes⟩
            exact ih (hparts y ⟨k, items, true, hk, hx, hy⟩) (hitems y hy) (by omega)

end FilterQuery.FilterNode

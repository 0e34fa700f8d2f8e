import Mathlib.Logic.Relation
import FilterQuery.Proofs.Filter.Meaning
import FilterQuery.Proofs.Json.Written

/-!
Spellings of a filter. The members of an object may stand in any order, the operator has two names, and a member that is blank
may be left out, at every node of the document. Whatever of this is changed, the document says the same node, so the text is
parsed to the same result. -/

namespace FilterQuery.FilterNode

open Json (Doc)

variable {n : FilterNode} {depth : Nat} {d d' x y : Doc} {k : Member} {c : Content} {members members' : List (Doc × Doc)}
  {closed : Bool} {tells : Member → Doc → Content → Prop} {parts : Doc → List FilterNode → Prop}

/-- Members that say no more than their absence. -/
def inertMembers : List (Doc × Doc) :=
  [(.string (some "field"), .string (some "")), (.string (some "op"), .string (some "")), (.string (some "value"), .null),
    (.string (some "and"), .array [] true), (.string (some "or"), .array [] true)]

/-- One change of the spelling of a node, or of one part of a group in it. As members may be put in any order, the other changes
are to the first one. -/
inductive Respelling : Doc → Doc → Prop
  | order {members members' : List (Doc × Doc)} (closed : Bool) (h : members.Perm members') :
      Respelling (.object members closed) (.object members' closed)
  | rename (x : Doc) (members : List (Doc × Doc)) (closed : Bool) :
      Respelling (.object ((.string (some "op"), x) :: members) closed)
        (.object ((.string (some "operator"), x) :: members) closed)
  | inert {m : Doc × Doc} (h : m ∈ inertMembers) (members : List (Doc × Doc)) (closed : Bool) :
      Respelling (.object (m :: members) closed) (.object members closed)
  | inObject {name x y : Doc} (before after : List Doc) (members : List (Doc × Doc)) (closed closed' : Bool)
      (hname : memberOf? name = some .all ∨ memberOf? name = some .any) (h : Respelling x y) :
      Respelling (.object ((name, .array (before ++ x :: after) closed') :: members) closed)
        (.object ((name, .array (before ++ y :: after) closed') :: members) closed)
  | inArray {x y : Doc} (before after items items' : List Doc) (closed closed' : Bool)
      (hplace : Member.inOrder[items.length]? = some .all ∨ Member.inOrder[items.length]? = some .any) (h : Respelling x y) :
      Respelling (.array (items ++ .array (before ++ x :: after) closed' :: items') closed)
        (.array (items ++ .array (before ++ y :: after) closed' :: items') closed)

/-! ### Documents without repeats -/

theorem hasMember_object_iff : HasMember (.object members closed) k x ↔ ∃ m ∈ members, memberOf? m.1 = some k ∧ m.2 = x := by
  constructor
  · rintro ⟨hm, hk⟩
    exact ⟨_, hm, hk, rfl⟩
  · rintro ⟨m, hm, hk, rfl⟩
    exact .named hm hk

theorem hasMember_array_iff {items : List Doc} :
    HasMember (.array items closed) k x ↔ ∃ i : Nat, Member.inOrder[i]? = some k ∧ items[i]? = some x := by
  constructor
  · intro h
    cases h with
    | placed h =>
        obtain ⟨i, hi⟩ := List.mem_iff_getElem?.mp h
        exact ⟨i, List.getElem?_zip_eq_some.mp hi⟩
  · rintro ⟨i, hi⟩
    exact .placed (List.mem_iff_getElem?.mpr ⟨i, List.getElem?_zip_eq_some.mpr hi⟩)

theorem NoRepeats.object (hself : (members.filterMap fun m => memberOf? m.1).Nodup)
    (hparts : ∀ m ∈ members, ∀ items closed, m.2 = .array items closed → ∀ x ∈ items, NoRepeats x) :
    NoRepeats (.object members closed) := by
  refine .intro hself ?_
  rintro x ⟨k, items, closed', _, hx, hitem⟩
  obtain ⟨m, hm, _, heq⟩ := hasMember_object_iff.mp hx
  exact hparts m hm items closed' heq x hitem

/-! ### Documents that tell the same -/

/-- What the members of a document tell, another document tells too, unless it is blank. -/
def Covers (tells : Member → Doc → Content → Prop) (d d' : Doc) : Prop :=
  ∀ k x, HasMember d k x →
    (∃ x', HasMember d' k x' ∧ ∀ c, tells k x c ↔ tells k x' c) ∨ ∀ c, tells k x c ↔ c = .blank k

/-- Documents that cover each other describe the same. -/
theorem Describes.of_covers (hnode : IsNode d → IsNode d') (hcovers : Covers tells d d') (hcovers' : Covers tells d' d)
    (h : Describes tells d n) : Describes tells d' n := by
  have hmember {d d' : Doc} (hcovers : Covers tells d d') {c : Content} (hc : ¬c.IsBlank) :
      (∃ x, HasMember d c.member x ∧ tells c.member x c) → ∃ x, HasMember d' c.member x ∧ tells c.member x c := by
    rintro ⟨x, hx, htells⟩
    obtain ⟨x', hx', hsame⟩ | hblank := hcovers c.member x hx
    · exact ⟨x', hx', (hsame c).mp htells⟩
    · exact absurd ((hblank c).mp htells) hc
  refine ⟨hnode h.isNode, fun k x hx => ?_, fun c hc => ?_⟩
  · obtain ⟨x', hx', hsame⟩ | hblank := hcovers' k x hx
    · obtain ⟨c, hc⟩ := h.told k x' hx'
      exact ⟨c, (hsame c).mpr hc⟩
    · exact ⟨.blank k, (hblank _).mpr rfl⟩
  · exact (h.content_iff c hc).trans ⟨hmember hcovers hc, hmember hcovers' hc⟩

theorem describes_iff_of_covers (hnode : IsNode d ↔ IsNode d') (hcovers : Covers tells d d') (hcovers' : Covers tells d' d) :
    Describes tells d n ↔ Describes tells d' n :=
  ⟨.of_covers hnode.mp hcovers hcovers', .of_covers hnode.mpr hcovers' hcovers⟩

/-- Objects with the same members cover each other. -/
theorem covers_of_subset (h : members ⊆ members') : Covers tells (.object members closed) (.object members' closed) := by
  intro k x hx
  obtain ⟨m, hm, hk, rfl⟩ := hasMember_object_iff.mp hx
  exact .inl ⟨m.2, .named (h hm) hk, fun _ => Iff.rfl⟩

/-- A first member may be given up for another that tells the same. -/
theorem covers_of_head {m m' : Doc × Doc} (hname : memberOf? m.1 = memberOf? m'.1)
    (hsame : ∀ k, memberOf? m.1 = some k → ∀ c, tells k m.2 c ↔ tells k m'.2 c) :
    Covers tells (.object (m :: members) closed) (.object (m' :: members) closed) := by
  intro k x hx
  obtain ⟨m₀, hm, hk, rfl⟩ := hasMember_object_iff.mp hx
  obtain rfl | hm := List.mem_cons.mp hm
  · exact .inl ⟨m'.2, .named List.mem_cons_self (hname ▸ hk), hsame k hk⟩
  · exact .inl ⟨m₀.2, .named (List.mem_cons_of_mem m' hm) hk, fun _ => Iff.rfl⟩

/-- A first member that tells what is blank may be given up. -/
theorem covers_of_blank {m : Doc × Doc} (hblank : ∀ k, memberOf? m.1 = some k → ∀ c, tells k m.2 c ↔ c = .blank k) :
    Covers tells (.object (m :: members) closed) (.object members closed) := by
  intro k x hx
  obtain ⟨m₀, hm, hk, rfl⟩ := hasMember_object_iff.mp hx
  obtain rfl | hm := List.mem_cons.mp hm
  · exact .inr (hblank k hk)
  · exact .inl ⟨m₀.2, .named hm hk, fun _ => Iff.rfl⟩

/-- An item may be given up for another that tells the same at its place. -/
theorem covers_of_item {items items' : List Doc}
    (hsame : ∀ k, Member.inOrder[items.length]? = some k → ∀ c, tells k x c ↔ tells k y c) :
    Covers tells (.array (items ++ x :: items') closed) (.array (items ++ y :: items') closed) := by
  intro k z hz
  obtain ⟨i, hk, hi⟩ := hasMember_array_iff.mp hz
  by_cases hlength : i = items.length
  · subst hlength
    obtain rfl : x = z := by simpa using hi
    exact .inl ⟨y, hasMember_array_iff.mpr ⟨items.length, hk, by simp⟩, hsame k hk⟩
  · have hother : (items ++ y :: items')[i]? = (items ++ x :: items')[i]? := by
      simp only [List.getElem?_append, List.getElem?_cons]
      grind
    exact .inl ⟨z, hasMember_array_iff.mpr ⟨i, hk, hother.trans hi⟩, fun _ => Iff.rfl⟩

/-! ### Changes of the spelling -/

theorem tells_inert {m : Doc × Doc} (hm : m ∈ inertMembers) (hparts : ∀ ns, parts (.array [] true) ns ↔ ns = []) :
    ∃ k, memberOf? m.1 = some k ∧ ∀ c, Tells parts k m.2 c ↔ c = .blank k := by
  simp only [inertMembers, List.mem_cons, List.not_mem_nil, or_false] at hm
  obtain rfl | rfl | rfl | rfl | rfl := hm
  · exact ⟨.field, rfl, fun c => by simp [Tells, Content.blank, eq_comm]⟩
  · exact ⟨.operator, rfl, fun c => by simp [Tells, Content.blank, eq_comm]⟩
  · exact ⟨.value, rfl, fun c => by simp [Tells, Content.blank, Doc.readOption, eq_comm]⟩
  · exact ⟨.all, rfl, fun c => by simp [Tells, Content.blank, hparts, eq_comm]⟩
  · exact ⟨.any, rfl, fun c => by simp [Tells, Content.blank, hparts, eq_comm]⟩

theorem denotesEach_nil (denotes : Doc → FilterNode → Prop) (ns : List FilterNode) :
    DenotesEach denotes (.array [] true) ns ↔ ns = [] := by
  simp [DenotesEach]

theorem tells_group_congr {place : Option Member} (hplace : place = some .all ∨ place = some .any) (hk : place = some k)
    (h : ∀ ns, parts x ns ↔ parts y ns) (c : Content) : Tells parts k x c ↔ Tells parts k y c := by
  subst hk
  obtain hk | hk := hplace <;> obtain rfl := Option.some.inj hk <;> simp only [Tells, h]

theorem denotesEach_replace {denotes : Doc → FilterNode → Prop} (before after : List Doc) (closed : Bool)
    (h : ∀ n, denotes x n ↔ denotes y n) (ns : List FilterNode) :
    DenotesEach denotes (.array (before ++ x :: after) closed) ns ↔
      DenotesEach denotes (.array (before ++ y :: after) closed) ns := by
  have hitems : List.Forall₂ denotes (before ++ x :: after) ns ↔ List.Forall₂ denotes (before ++ y :: after) ns := by
    induction before generalizing ns with
    | nil => simp only [List.nil_append, List.forall₂_cons_left_iff, h]
    | cons z before ih => simp only [List.cons_append, List.forall₂_cons_left_iff, ih]
  simp only [DenotesEach, Doc.array.injEq, and_assoc, exists_eq_left', hitems]

/-- A change of the spelling leaves what the document says as it is. -/
theorem Respelling.denotes_iff (h : Respelling d d') : Denotes depth d n ↔ Denotes depth d' n := by
  induction depth generalizing d d' n with
  | zero => exact Iff.rfl
  | succ depth ih =>
      rw [Denotes, Denotes]
      cases h with
      | order closed h =>
          refine describes_iff_of_covers ?_ (covers_of_subset h.subset) (covers_of_subset h.symm.subset)
          simp only [IsNode, h.mem_iff]
      | rename x members closed =>
          refine describes_iff_of_covers ?_ (covers_of_head rfl fun _ _ _ => Iff.rfl) (covers_of_head rfl fun _ _ _ => Iff.rfl)
          simp only [IsNode, List.forall_mem_cons]
          exact Iff.rfl
      | inert hm members closed =>
          obtain ⟨k, hk, hblank⟩ := tells_inert hm (denotesEach_nil (Denotes depth))
          refine describes_iff_of_covers ?_ (covers_of_blank fun j hj => ?_) (covers_of_subset (List.subset_cons_self _ _))
          · simp only [IsNode, List.forall_mem_cons, hk, Option.some.injEq, exists_eq', true_and]
          · obtain rfl := Option.some.inj (hk.symm.trans hj)
            exact hblank
      | inObject before after members closed closed' hname h =>
          have hgroup := denotesEach_replace before after closed' fun m => ih h
          refine describes_iff_of_covers ?_ (covers_of_head rfl fun k hk => tells_group_congr hname hk hgroup)
            (covers_of_head rfl fun k hk => tells_group_congr hname hk fun ns => (hgroup ns).symm)
          simp only [IsNode, List.forall_mem_cons]
      | inArray before after items items' closed closed' hplace h =>
          have hgroup := denotesEach_replace before after closed' fun m => ih h
          refine describes_iff_of_covers ?_ (covers_of_item fun k hk => tells_group_congr hplace hk hgroup)
            (covers_of_item fun k hk => tells_group_congr hplace hk fun ns => (hgroup ns).symm)
          simp only [IsNode, List.length_append, List.length_cons]

theorem denotes_iff_of_eqvGen (h : Relation.EqvGen Respelling d d') : Denotes depth d n ↔ Denotes depth d' n := by
  induction h with
  | rel d d' h => exact h.denotes_iff
  | refl d => exact Iff.rfl
  | symm d d' _ ih => exact ih.symm
  | trans d d' d'' _ _ ih ih' => exact ih.trans ih'

end FilterQuery.FilterNode

namespace FilterQuery.Filter

open Json (Doc)
open FilterNode
open Json.Tree (doc docOfItems docOfMembers)

variable {text text' : String} {maxBytes : Nat} {d d' : Doc}

/-- A text within the limits of size and nesting that is written as the given document, and gives no member of a node twice. -/
structure IsText (text : String) (maxBytes : Nat) (d : Doc) : Prop where
  ofText_eq : Doc.ofText text.toList = (d, true)
  size_le : text.utf8ByteSize ≤ maxBytes
  nesting_le : d.nesting ≤ Json.maxDepth
  noRepeats : NoRepeats d

theorem IsText.ofJson_eq_ok_iff (h : IsText text maxBytes d) {n : FilterNode} :
    FilterNode.ofJson text = .ok n ↔ Denotes Json.maxDepth d n := by
  rw [FilterNode.ofJson, Json.read_of_ofText h.ofText_eq, read_iff_denotes h.noRepeats h.nesting_le (Nat.le_refl _)]

/-- Texts that differ only in the spelling of nodes are parsed to the same filter or failure, that of the node which they
denote, or they denote none and are both unreadable. -/
theorem parse_of_respelling (h : IsText text maxBytes d) (h' : IsText text' maxBytes d')
    (hspelling : Relation.EqvGen Respelling d d') (maxDepth : Nat) :
    (∃ n, Denotes Json.maxDepth d n ∧ parse text maxBytes maxDepth = n.toFilterWithin maxDepth ∧
        parse text maxBytes maxDepth = parse text' maxBytes maxDepth) ∨
      (¬∃ n, Denotes Json.maxDepth d n) ∧ (∃ fault, parse text maxBytes maxDepth = .error (.unreadableFilter fault)) ∧
        ∃ fault, parse text' maxBytes maxDepth = .error (.unreadableFilter fault) := by
  have hsame (n : FilterNode) : FilterNode.ofJson text = .ok n ↔ FilterNode.ofJson text' = .ok n := by
    rw [h.ofJson_eq_ok_iff, h'.ofJson_eq_ok_iff, denotes_iff_of_eqvGen hspelling]
  rw [parse, parse, if_neg (Nat.not_lt.mpr h.size_le), if_neg (Nat.not_lt.mpr h'.size_le)]
  cases hread : FilterNode.ofJson text with
  | ok n => exact .inl ⟨n, h.ofJson_eq_ok_iff.mp hread, rfl, by rw [(hsame n).mp hread]⟩
  | error fault =>
      have hnone : ¬∃ n, Denotes Json.maxDepth d n := by
        rintro ⟨n, hn⟩
        cases hread.symm.trans (h.ofJson_eq_ok_iff.mpr hn)
      cases hread' : FilterNode.ofJson text' with
      | ok n => cases hread.symm.trans ((hsame n).mpr hread')
      | error fault' => exact .inr ⟨hnone, ⟨fault, rfl⟩, fault', rfl⟩

/-- A group of one test, whose members stand in another order in the second text, with the other name of the operator and with
blank members besides. -/
theorem parse_of_respelled_group :
    let test : Json.Tree := .object [("field", .string "a"), ("op", .string "="), ("value", .string "b")]
    let test' : Json.Tree :=
      .object [("and", .array []), ("operator", .string "="), ("field", .string "a"), ("value", .string "b")]
    let text := String.ofList (Json.Tree.object [("or", .array [test])]).compact
    let text' := String.ofList (Json.Tree.object [("field", .string ""), ("or", .array [test'])]).compact
    (∃ f, parse text 100 64 = .ok f) ∧ text ≠ text' ∧ parse text 100 64 = parse text' 100 64 := by
  intro test test' text text'
  have htest : test.HasNumbers := .object (by simpa using ⟨.string _, .string _, .string _⟩)
  have htest' : test'.HasNumbers := .object (by simpa using ⟨.array nofun, .string _, .string _, .string _⟩)
  have hrepeats : NoRepeats test.doc :=
    .object (show [Member.field, .operator, .value].Nodup by simp) (by simp [docOfMembers, doc])
  have hrepeats' : NoRepeats test'.doc :=
    .object (show [Member.all, .operator, .field, .value].Nodup by simp) (by simp [docOfMembers, docOfItems, doc])
  have hd : IsText text 100 (Json.Tree.object [("or", .array [test])]).doc := by
    refine ⟨Json.Tree.ofText_compact ?_, by decide +kernel, by decide, ?_⟩
    · exact .object (by simpa using .array (by simpa using htest))
    · exact .object (show [Member.any].Nodup by simp) (by simpa [docOfMembers, docOfItems, doc] using hrepeats)
  have hd' : IsText text' 100 (Json.Tree.object [("field", .string ""), ("or", .array [test'])]).doc := by
    refine ⟨Json.Tree.ofText_compact ?_, by decide +kernel, by decide, ?_⟩
    · exact .object (by simpa using ⟨.string _, .array (by simpa using htest')⟩)
    · exact .object (show [Member.field, .any].Nodup by simp) (by simpa [docOfMembers, docOfItems, doc] using hrepeats')
  have hpart {x y : Doc} (h : Respelling x y) : Relation.EqvGen Respelling
      (.object [(.string (some "or"), .array [x] true)] true) (.object [(.string (some "or"), .array [y] true)] true) :=
    .rel _ _ (.inObject [] [] [] true true (.inr rfl) h)
  have hspelling : Relation.EqvGen Respelling (Json.Tree.object [("or", .array [test])]).doc
      (Json.Tree.object [("field", .string ""), ("or", .array [test'])]).doc := by
    refine .trans _ _ _ (hpart (.order true (.swap _ _ _))) (.trans _ _ _ (hpart (.rename _ _ true)) ?_)
    refine .trans _ _ _ (.symm _ _ (hpart (.inert ?_ _ true))) (.symm _ _ (.rel _ _ (.inert ?_ _ true)))
    · simp [inertMembers, docOfItems, doc]
    · simp [inertMembers, doc]
  have hread : ∃ f, parse text 100 64 = .ok f := by
    have hok : (parse text 100 64).toBool = true := by decide +kernel
    cases hparse : parse text 100 64 with
    | ok f => exact ⟨f, rfl⟩
    | error e =>
        rw [hparse] at hok
        cases hok
  obtain ⟨_, _, _, hsame⟩ | ⟨_, ⟨fault, hfault⟩, _⟩ := parse_of_respelling hd hd' hspelling 64
  · exact ⟨hread, by decide +kernel, hsame⟩
  · obtain ⟨f, hf⟩ := hread
    cases hf.symm.trans hfault

end FilterQuery.Filter

import Mathlib.Data.List.Forall2
import FilterQuery.Proofs.Filter.Fold
import FilterQuery.Proofs.Filter.Node

/-!
What nodes stand for. A node stands for a test when its operator names one and it has no parts, and for a group when it has
parts under the name of the group and nothing else. This is said without looking at how nodes are turned into filters, which
gives a filter exactly for a node that stands for it and is not too deep. -/

namespace FilterQuery

theorem Operator.ofText?_spelling (op : Operator) : ofText? op.spelling = some op := by
  cases op <;> rfl

namespace FilterNode

/-- A node and the filter that it stands for. -/
inductive StandsFor : FilterNode → Filter → Prop
  | test {field text : String} {op : Operator} {value : Option Value} (hop : Operator.ofText? text = some op) :
      StandsFor ⟨field, text, value, [], []⟩ (.test ⟨field, op, value⟩)
  | all {nodes : List FilterNode} {parts : List Filter} (hne : nodes ≠ []) (hparts : List.Forall₂ StandsFor nodes parts) :
      StandsFor ⟨"", "", none, nodes, []⟩ (.group .all parts)
  | any {nodes : List FilterNode} {parts : List Filter} (hne : nodes ≠ []) (hparts : List.Forall₂ StandsFor nodes parts) :
      StandsFor ⟨"", "", none, [], nodes⟩ (.group .any parts)

mutual

/-- The number of nodes on the longest way down from a node, itself included. -/
def depth : FilterNode → Nat
  | ⟨_, _, _, all, any⟩ => max (depthOfAll all) (depthOfAll any) + 1

def depthOfAll : List FilterNode → Nat
  | [] => 0
  | n :: ns => max n.depth (depthOfAll ns)

end

theorem depthOfAll_le_iff {ns : List FilterNode} {d : Nat} : depthOfAll ns ≤ d ↔ ∀ n ∈ ns, n.depth ≤ d := by
  induction ns with
  | nil => simp [depthOfAll]
  | cons n ns ih => rw [depthOfAll, Nat.max_le, ih, List.forall_mem_cons]

theorem depth_pos (n : FilterNode) : 0 < n.depth := by
  obtain ⟨field, text, value, all, any⟩ := n
  rw [depth]
  exact Nat.succ_pos _

theorem depth_test (field text : String) (value : Option Value) : depth ⟨field, text, value, [], []⟩ = 1 := rfl

theorem depth_ofParts (k : Connective) (nodes : List FilterNode) : (ofParts k nodes).depth = depthOfAll nodes + 1 := by
  cases k <;> simp [ofParts, depth, depthOfAll]

/-! ### What each kind of node stands for -/

theorem StandsFor.exists_kind {n : FilterNode} {f : Filter} (h : n.StandsFor f) : ∃ kind, n.kind = .ok kind := by
  cases h with
  | @test _ text _ _ hop =>
      have htext : text ≠ "" := by
        rintro rfl
        cases hop
      exact ⟨_, kind_of_text_ne htext⟩
  | all hne => exact ⟨_, kind_ofParts .all hne⟩
  | any hne => exact ⟨_, kind_ofParts .any hne⟩

theorem standsFor_test_iff {field text : String} {value : Option Value} {f : Filter} :
    StandsFor ⟨field, text, value, [], []⟩ f ↔ toTest field text value = .ok f := by
  unfold toTest
  constructor
  · intro h
    cases h with
    | test hop => rw [hop]
    | all hne | any hne => exact absurd rfl hne
  · intro h
    split at h
    · rename_i op hop
      cases h
      exact .test hop
    · cases h

theorem standsFor_ofParts_iff {k : Connective} {nodes : List FilterNode} {f : Filter} (hne : nodes ≠ []) :
    (ofParts k nodes).StandsFor f ↔ ∃ parts, List.Forall₂ StandsFor nodes parts ∧ f = .group k parts := by
  constructor
  · intro h
    cases k with
    | all =>
        rw [ofParts] at h
        cases h with
        | test | any => exact absurd rfl hne
        | all _ hparts => exact ⟨_, hparts, rfl⟩
    | any =>
        rw [ofParts] at h
        cases h with
        | test | all => exact absurd rfl hne
        | any _ hparts => exact ⟨_, hparts, rfl⟩
  · rintro ⟨parts, hparts, rfl⟩
    cases k with
    | all => exact .all hne hparts
    | any => exact .any hne hparts

/-! ### Turning nodes into filters -/

variable {limit : Option Nat}

theorem toFiltersAt_eq_ok_iff {stands : FilterNode → Filter → Prop} {depth : Nat} {ns : List FilterNode}
    (h : ∀ n ∈ ns, ∀ f, n.toFilterAt limit depth = .ok f ↔ stands n f) {k : Connective} {index : Nat} {fs : List Filter} :
    toFiltersAt limit depth k index ns = .ok fs ↔ List.Forall₂ stands ns fs := by
  induction ns generalizing index fs with
  | nil => simp [toFiltersAt, eq_comm]
  | cons n ns ih =>
      obtain ⟨hn, hns⟩ := List.forall_mem_cons.mp h
      simp only [toFiltersAt, List.forall₂_cons_left_iff, ← hn]
      cases n.toFilterAt limit depth with
      | error e => simp
      | ok f =>
          simp only [map_eq_ok_iff, ih hns, Except.ok.injEq]
          constructor
          · rintro ⟨gs, hgs, rfl⟩
            exact ⟨f, gs, rfl, hgs, rfl⟩
          · rintro ⟨_, gs, rfl, hgs, rfl⟩
            exact ⟨gs, hgs, rfl⟩

/-- A group is within a limit when its parts are, one deeper. -/
theorem depth_parts_le_iff {depth : Nat} (hdepth : isTooDeep limit depth = false) {nodes : List FilterNode} :
    (∀ n ∈ nodes, ∀ max ∈ limit, depth + 1 + n.depth ≤ max + 1) ↔
      ∀ max ∈ limit, depth + (depthOfAll nodes + 1) ≤ max + 1 := by
  constructor
  · intro h max hmax
    have hself := isTooDeep_eq_false_iff.mp hdepth max hmax
    have hparts : depthOfAll nodes ≤ max - depth := by
      rw [depthOfAll_le_iff]
      intro n hn
      have hpart := h n hn max hmax
      omega
    omega
  · intro h n hn max hmax
    have hgroup := h max hmax
    have hpart := depthOfAll_le_iff.mp (Nat.le_refl (depthOfAll nodes)) n hn
    omega

/-- A node at a depth is turned into the filter that it stands for, as long as no node below it is beyond the limit. -/
theorem toFilterAt_eq_ok_iff {depth : Nat} {n : FilterNode} {f : Filter} :
    n.toFilterAt limit depth = .ok f ↔ (∀ max ∈ limit, depth + n.depth ≤ max + 1) ∧ n.StandsFor f := by
  induction depth, n using induction_within limit generalizing f with
  | tooDeep depth n hdepth =>
      rw [toFilterAt_of_isTooDeep hdepth]
      constructor
      · intro h
        cases h
      · rintro ⟨hmax, _⟩
        have hwithin : isTooDeep limit depth = false := by
          rw [isTooDeep_eq_false_iff]
          intro max hlimit
          have hbelow := hmax max hlimit
          have hpos := n.depth_pos
          omega
        rw [hwithin] at hdepth
        cases hdepth
  | faulty depth n fault hdepth hkind =>
      rw [toFilterAt_of_kind_error hdepth hkind]
      constructor
      · intro h
        cases h
      · rintro ⟨_, h⟩
        obtain ⟨kind, hok⟩ := h.exists_kind
        rw [hok] at hkind
        cases hkind
  | test depth field text value hdepth hkind =>
      rw [toFilterAt_of_kind_test hdepth hkind, standsFor_test_iff, depth_test]
      have hmax : ∀ max ∈ limit, depth + 1 ≤ max + 1 := by
        intro max hlimit
        exact Nat.succ_le_succ (isTooDeep_eq_false_iff.mp hdepth max hlimit)
      exact ⟨fun h => ⟨hmax, h⟩, And.right⟩
  | group depth k nodes hdepth hne ih =>
      rw [toFilterAt_ofParts hdepth k hne, standsFor_ofParts_iff hne, map_eq_ok_iff, depth_ofParts,
        ← depth_parts_le_iff hdepth]
      simp only [toFiltersAt_eq_ok_iff (fun n hn f => ih n hn), List.forall₂_and_left]
      constructor
      · rintro ⟨parts, ⟨hmax, hparts⟩, rfl⟩
        exact ⟨hmax, parts, hparts, rfl⟩
      · rintro ⟨hmax, parts, hparts, rfl⟩
        exact ⟨parts, ⟨hmax, hparts⟩, rfl⟩

end FilterNode

/-! ### The nodes of a filter -/

namespace Filter

/-- The filter itself, or a node of one of its parts. -/
inductive IsNodeOf (g : Filter) : Filter → Prop
  | root : IsNodeOf g g
  | part {k : Connective} {parts : List Filter} {f : Filter} (hf : f ∈ parts) (h : IsNodeOf g f) :
      IsNodeOf g (.group k parts)

theorem checkShape_eq_ok_iff {f : Filter} : f.checkShape = .ok () ↔ ∀ k, f ≠ group k [] := by
  cases f with
  | test t => simp [checkShape]
  | group k parts => cases parts <;> simp [checkShape]

theorem toNodes_eq_map (fs : List Filter) : toNodes fs = fs.map toNode := by
  induction fs with
  | nil => rfl
  | cons f fs ih => rw [toNodes, ih, List.map_cons]

theorem toNode_group (k : Connective) (parts : List Filter) :
    (group k parts).toNode = FilterNode.ofParts k (parts.map toNode) := by
  cases k with
  | all | any => rw [toNode, toNodes_eq_map, FilterNode.ofParts]

/-- A filter whose groups all have parts is what its own node stands for. -/
theorem toNode_standsFor {f : Filter} (h : ∀ k, ¬(group k []).IsNodeOf f) : f.toNode.StandsFor f := by
  induction f using Filter.induction with
  | test t => exact .test (Operator.ofText?_spelling t.operator)
  | group k parts ih =>
      have hne : parts.map toNode ≠ [] := by
        intro hnil
        obtain rfl := List.map_eq_nil_iff.mp hnil
        exact h k .root
      rw [toNode_group, FilterNode.standsFor_ofParts_iff hne]
      refine ⟨parts, ?_, rfl⟩
      rw [List.forall₂_map_left_iff, List.forall₂_same]
      intro f hf
      exact ih f hf fun l hl => h l (.part hf hl)

end Filter

namespace FilterNode

/-- Every group in a filter that a node stands for has parts. -/
theorem StandsFor.not_isNodeOf {n : FilterNode} {f : Filter} (h : n.StandsFor f) (k : Connective) :
    ¬(Filter.group k []).IsNodeOf f := by
  intro hg
  induction hg generalizing n with
  | root =>
      cases h with
      | all hne hparts | any hne hparts =>
          cases hparts
          exact hne rfl
  | part hf _ ih =>
      cases h with
      | all _ hparts | any _ hparts =>
          obtain ⟨m, _, hm⟩ := exists_mem_of_forall₂ hparts hf
          exact ih hm

/-- Within a limit on the depth, a node gives the filter that it stands for, and no other node gives one. Every group in
that filter has parts, and every filter whose groups have parts is given by its own node. -/
theorem toFilterWithin_eq_ok_iff_standsFor (n : FilterNode) (max : Nat) (f : Filter) :
    (n.toFilterWithin max = .ok f ↔ n.depth ≤ max ∧ n.StandsFor f) ∧
      (n.toFilterWithin max = .ok f → ∀ g : Filter, g.IsNodeOf f → g.checkShape = .ok ()) ∧
      (f.toNode.toFilter = .ok f ↔ ∀ k, ¬(Filter.group k []).IsNodeOf f) := by
  have hwithin : n.toFilterWithin max = .ok f ↔ n.depth ≤ max ∧ n.StandsFor f := by
    rw [toFilterWithin, toFilterAt_eq_ok_iff]
    simp [Nat.add_comm 1]
  refine ⟨hwithin, ?_, ?_⟩
  · intro h g hg
    rw [Filter.checkShape_eq_ok_iff]
    rintro k rfl
    exact (hwithin.mp h).2.not_isNodeOf k hg
  · rw [toFilter, toFilterAt_eq_ok_iff]
    constructor
    · rintro ⟨_, hstands⟩
      exact hstands.not_isNodeOf
    · intro h
      exact ⟨by simp, Filter.toNode_standsFor h⟩

/-- Three nodes deep, with the operators in spellings of their own. -/
theorem toFilterWithin_of_loose_spellings :
    let n : FilterNode := ⟨"", "", none, [⟨"a", " is  Null", none, [], []⟩,
      ⟨"", "", none, [], [⟨"b", "in", some (.list [.int 1]), [], []⟩]⟩], []⟩
    let f : Filter := .group .all [.test ⟨"a", .isNull, none⟩, .group .any [.test ⟨"b", .isIn, some (.list [.int 1])⟩]]
    n.toFilterWithin 3 = .ok f ∧ n.toFilterWithin 2 ≠ .ok f ∧ n.StandsFor f ∧
      (∀ g : Filter, g.IsNodeOf f → g.checkShape = .ok ()) ∧ f.toNode.toFilter = .ok f := by
  intro n f
  have hok : n.toFilterWithin 3 = .ok f := rfl
  obtain ⟨hwithin, hshape, hback⟩ := toFilterWithin_eq_ok_iff_standsFor n 3 f
  have hstands := (hwithin.mp hok).2
  refine ⟨hok, ?_, hstands, hshape hok, hback.mpr hstands.not_isNodeOf⟩
  intro htwo
  have hdepth := ((toFilterWithin_eq_ok_iff_standsFor n 2 f).1.mp htwo).1
  exact absurd hdepth (by decide)

end FilterNode

end FilterQuery

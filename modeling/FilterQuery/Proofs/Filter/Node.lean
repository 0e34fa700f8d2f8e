import FilterQuery.Filter.Node
import FilterQuery.Proofs.Filter.Fold

/-!
Nodes as trees: what a node can be, what it is turned into, and induction along the way that nodes are turned into filters. A
node that is not too deep fails for its shape, or is the test that its members describe, or is made of the parts of one
group. -/

namespace FilterQuery.FilterNode

def ofParts (k : Connective) (nodes : List FilterNode) : FilterNode :=
  match k with
  | .all => ⟨"", "", none, nodes, []⟩
  | .any => ⟨"", "", none, [], nodes⟩

theorem kind_of_text_ne {field text : String} {value : Option Value} (htext : text ≠ "") :
    kind ⟨field, text, value, [], []⟩ = .ok .test := by
  have htest : (field != "" || text != "" || value.isSome) = true := by
    simp [htext]
  simp [kind, htest]

theorem kind_ofParts (k : Connective) {nodes : List FilterNode} (hne : nodes ≠ []) :
    (ofParts k nodes).kind = .ok (.group k) := by
  obtain ⟨m, ms, rfl⟩ := List.exists_cons_of_ne_nil hne
  cases k <;> rfl

/-- A node has no kind, or it is a test without parts, or it has the parts of one group and nothing else. -/
theorem kind_cases (n : FilterNode) :
    (∃ fault, n.kind = .error (.invalidShape fault)) ∨ (n.kind = .ok .test ∧ n.all = [] ∧ n.any = []) ∨
      ∃ k nodes, nodes ≠ [] ∧ n = ofParts k nodes := by
  obtain ⟨field, operator, value, all, any⟩ := n
  cases htest : field != "" || operator != "" || value.isSome with
  | true => cases all <;> cases any <;> simp [kind, htest]
  | false =>
      obtain ⟨rfl, rfl, rfl⟩ : field = "" ∧ operator = "" ∧ value = none := by
        simpa [and_assoc] using htest
      cases all with
      | nil =>
          cases any with
          | nil => exact .inl ⟨.nothing, rfl⟩
          | cons m ms => exact .inr (.inr ⟨.any, m :: ms, List.cons_ne_nil m ms, rfl⟩)
      | cons m ms =>
          cases any with
          | nil => exact .inr (.inr ⟨.all, m :: ms, List.cons_ne_nil m ms, rfl⟩)
          | cons m' ms' => exact .inl ⟨.mixed true true false, rfl⟩

/-! ### What a node is turned into -/

variable {limit : Option Nat} {depth : Nat}

theorem isTooDeep_eq_false_iff : isTooDeep limit depth = false ↔ ∀ max ∈ limit, depth ≤ max := by
  cases limit <;> simp [isTooDeep]

theorem toFilterAt_of_isTooDeep (hdepth : isTooDeep limit depth = true) (n : FilterNode) :
    n.toFilterAt limit depth = .error (.filterTooDeep (limit.getD 0)) := by
  obtain ⟨field, operator, value, all, any⟩ := n
  rw [toFilterAt, if_pos hdepth]

theorem toFiltersAt_eq_eachPart (k : Connective) (index : Nat) (ns : List FilterNode) :
    toFiltersAt limit depth k index ns = eachPart (toFilterAt limit depth) k index ns := by
  induction ns generalizing index with
  | nil => rfl
  | cons n ns ih =>
      rw [toFiltersAt, eachPart]
      cases n.toFilterAt limit depth with
      | error e => rfl
      | ok f => simp only [ih]

section Within

variable (hdepth : isTooDeep limit depth = false)
include hdepth

theorem toFilterAt_of_kind_error {n : FilterNode} {e : Failure} (hkind : n.kind = .error e) :
    n.toFilterAt limit depth = .error e := by
  obtain ⟨field, operator, value, all, any⟩ := n
  simp [toFilterAt, hdepth, hkind]

theorem toFilterAt_of_kind_test {n : FilterNode} (hkind : n.kind = .ok .test) :
    n.toFilterAt limit depth = toTest n.field n.operator n.value := by
  obtain ⟨field, operator, value, all, any⟩ := n
  simp [toFilterAt, hdepth, hkind]

theorem toFilterAt_ofParts (k : Connective) {nodes : List FilterNode} (hne : nodes ≠ []) :
    (ofParts k nodes).toFilterAt limit depth = (toFiltersAt limit (depth + 1) k 0 nodes).map (.group k) := by
  have hkind := kind_ofParts k hne
  cases k with
  | all =>
      rw [ofParts] at hkind ⊢
      simp [toFilterAt, hdepth, hkind]
  | any =>
      rw [ofParts] at hkind ⊢
      simp [toFilterAt, hdepth, hkind]

end Within

/-- Induction along the way that nodes are turned into filters, for a given limit on the depth: the way ends at a node that is
too deep, at one without a kind and at a test, and goes on from a group to its parts. -/
@[elab_as_elim]
theorem induction_within (limit : Option Nat) {motive : Nat → FilterNode → Prop}
    (tooDeep : ∀ depth n, isTooDeep limit depth = true → motive depth n)
    (faulty : ∀ depth n fault, isTooDeep limit depth = false → n.kind = .error (.invalidShape fault) → motive depth n)
    (test : ∀ depth field text value, isTooDeep limit depth = false →
      kind ⟨field, text, value, [], []⟩ = .ok .test → motive depth ⟨field, text, value, [], []⟩)
    (group : ∀ depth k nodes, isTooDeep limit depth = false → nodes ≠ [] → (∀ m ∈ nodes, motive (depth + 1) m) →
      motive depth (ofParts k nodes)) : ∀ depth n, motive depth n
  | depth, ⟨field, text, value, all, any⟩ => by
    have hall : ∀ m ∈ all, motive (depth + 1) m := fun m _ =>
      induction_within limit tooDeep faulty test group (depth + 1) m
    have hany : ∀ m ∈ any, motive (depth + 1) m := fun m _ =>
      induction_within limit tooDeep faulty test group (depth + 1) m
    cases hdepth : isTooDeep limit depth with
    | true => exact tooDeep depth _ hdepth
    | false =>
        obtain ⟨fault, hkind⟩ | ⟨hkind, rfl, rfl⟩ | ⟨k, nodes, hne, heq⟩ := kind_cases ⟨field, text, value, all, any⟩
        · exact faulty depth _ fault hdepth hkind
        · exact test depth field text value hdepth hkind
        · rw [heq]
          cases k with
          | all =>
              obtain ⟨_, _, _, rfl, _⟩ := FilterNode.mk.inj heq
              exact group depth .all all hdepth hne hall
          | any =>
              obtain ⟨_, _, _, _, rfl⟩ := FilterNode.mk.inj heq
              exact group depth .any any hdepth hne hany

end FilterQuery.FilterNode

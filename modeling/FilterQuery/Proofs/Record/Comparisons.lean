import Mathlib.Logic.Relation
import FilterQuery.Proofs.Filter.Fits
import FilterQuery.Proofs.Record.Holds

/-!
Comparisons said by other comparisons. Membership is equality with one of the values, and each comparison that is not strict, and the
one that is not equal, is one of two strict ones; where a column is missing or is not ordered with the value, none of them holds. So one
may stand for the other anywhere in a filter, whatever the rest of the filter is and also where it cannot be used. -/

namespace FilterQuery

namespace Operator

/-- A comparison that holds where one of two others does. -/
inductive Splits : Operator → Operator → Operator → Prop
  | ge : Splits .ge .gt .eq
  | le : Splits .le .lt .eq
  | ne : Splits .ne .lt .gt

/-- The comparisons that exclude one another. -/
def exclusive : List Operator :=
  [lt, eq, gt]

/-- The one of them that a value in an order to the operand passes. -/
def ofOrder : Ordering → Operator
  | .lt => lt
  | .eq => eq
  | .gt => gt

def IsComparison (op : Operator) : Prop :=
  op.needsValue = true ∧ op ≠ .isIn

theorem Splits.accepts {op first second : Operator} (h : Splits op first second) (o : Ordering) :
    op.accepts o = (first.accepts o || second.accepts o) := by
  cases h <;> cases o <;> rfl

theorem Splits.isComparison {op first second : Operator} (h : Splits op first second) :
    op.IsComparison ∧ first.IsComparison ∧ second.IsComparison := by
  cases h <;> simp [IsComparison, needsValue]

theorem mem_exclusive_iff {op : Operator} : op ∈ exclusive ↔ op = lt ∨ op = eq ∨ op = gt := by
  simp [exclusive]

theorem isComparison_of_mem_exclusive {op : Operator} (h : op ∈ exclusive) : op.IsComparison := by
  obtain rfl | rfl | rfl := mem_exclusive_iff.mp h <;> simp [IsComparison, needsValue]

theorem ofOrder_mem_exclusive (o : Ordering) : ofOrder o ∈ exclusive := by
  cases o <;> decide

theorem accepts_iff_of_mem_exclusive {op : Operator} (h : op ∈ exclusive) {o : Ordering} :
    op.accepts o = true ↔ op = ofOrder o := by
  obtain rfl | rfl | rfl := mem_exclusive_iff.mp h <;> cases o <;> decide

end Operator

/-- How a record stands to a value in a column: a record without the column does not stand to it, nor does one with a value that is
not ordered with it. -/
def Record.order (r : Record) (field : String) (v : Value) : Option Ordering :=
  (r.lookup field).bind fun cell => cell.compare? v

namespace Filter

def compares (field : String) (op : Operator) (v : Value) : Filter :=
  .test ⟨field, op, some v⟩

/-- A comparison said by others, at any node. -/
inductive Respelling : Filter → Filter → Prop
  | memberOfList {field : String} {vs : List Value} (hfield : Sql.isIdentifier field = true) (hne : vs ≠ [])
      (hvs : ∀ v ∈ vs, v.isList = false) :
      Respelling (compares field .isIn (.list vs)) (group .any (vs.map (compares field .eq)))
  | member {field : String} {v : Value} (hfield : Sql.isIdentifier field = true) (hv : v.isList = false) :
      Respelling (compares field .isIn v) (compares field .eq v)
  | split {op first second : Operator} (h : op.Splits first second) {field : String} {v : Value}
      (hfield : Sql.isIdentifier field = true) (hv : v.isList = false) :
      Respelling (compares field op v) (group .any [compares field first v, compares field second v])
  | inside (k : Connective) {f f' : Filter} (before after : List Filter) (h : Respelling f f') :
      Respelling (group k (before ++ f :: after)) (group k (before ++ f' :: after))

variable {field : String} {op : Operator} {v : Value} {vs : List Value} {f f' : Filter}

/-! ### One comparison -/

theorem checkAll_compares (hfield : Sql.isIdentifier field = true) (hop : op.IsComparison) (hv : v.isList = false) :
    (compares field op v).checkAll Sql.checkTest = .ok () :=
  Sql.checkTest_eq_ok_iff.mpr ⟨hfield, .comparison field op v hop.1 hop.2 hv⟩

theorem holds_compares (hop : op.IsComparison) (hv : v.isList = false) (r : Record) :
    (compares field op v).holds r = (r.order field v).any op.accepts := by
  obtain ⟨hneeds, hin⟩ := hop
  rw [compares, holds_test, Record.order]
  cases op with
  | isIn => exact absurd rfl hin
  | isNull | isNotNull => cases hneeds
  | _ =>
      simp only [Test.holds, Test.arguments_of_scalar field _ hv]
      cases r.lookup field with
      | none => rfl
      | some cell => cases hcell : cell.compare? v <;> simp [hcell]

theorem beq_some_eq (o : Option Ordering) : (o == some .eq) = o.any Operator.eq.accepts := by
  cases o with
  | none => rfl
  | some o => cases o <;> rfl

/-- Membership is equality with one of the arguments. -/
theorem holds_member (field : String) (w : Value) (r : Record) : (compares field .isIn w).holds r =
    (⟨field, .isIn, some w⟩ : Test).arguments.any fun v => (r.order field v).any Operator.eq.accepts := by
  rw [compares, holds_test, Test.holds]
  simp only [Record.order]
  cases r.lookup field with
  | none => simp
  | some cell => simp only [beq_some_eq, Option.bind_some]

/-! ### Both sides of a respelling -/

theorem holds_group_any (r : Record) (parts : List Filter) : (group .any parts).holds r = parts.any (holds r) := by
  rw [holds_group, joinHolds, List.any_map]
  rfl

theorem checkAll_group_any {parts : List Filter} (hne : parts ≠ []) (h : ∀ g ∈ parts, g.checkAll Sql.checkTest = .ok ()) :
    (group .any parts).checkAll Sql.checkTest = .ok () :=
  (checkAll_group_eq_ok_iff _ _ _).mpr ⟨hne, h⟩

/-- Filters that pass their checks are used alike where they hold of the same records. -/
theorem matches?_congr (hf : f.checkAll Sql.checkTest = .ok ()) (hf' : f'.checkAll Sql.checkTest = .ok ()) {r : Record}
    (h : f'.holds r = f.holds r) : f'.matches? r = f.matches? r := by
  rw [matches?_of_checkAll hf, matches?_of_checkAll hf', h]

theorem matches?_memberOfList (hfield : Sql.isIdentifier field = true) (hne : vs ≠ []) (hvs : ∀ v ∈ vs, v.isList = false)
    (r : Record) :
    (group .any (vs.map (compares field .eq))).matches? r = (compares field .isIn (.list vs)).matches? r := by
  have heq : Operator.eq.IsComparison := Operator.isComparison_of_mem_exclusive (by decide)
  have hcheck : (compares field .isIn (.list vs)).checkAll Sql.checkTest = .ok () :=
    Sql.checkTest_eq_ok_iff.mpr ⟨hfield, .memberOfList field vs hne hvs⟩
  have hchecks : ∀ g ∈ vs.map (compares field .eq), g.checkAll Sql.checkTest = .ok () := by
    intro g hg
    obtain ⟨v, hv, rfl⟩ := List.mem_map.mp hg
    exact checkAll_compares hfield heq (hvs v hv)
  apply matches?_congr hcheck (checkAll_group_any (by simpa using hne) hchecks)
  rw [holds_member, holds_group_any, List.any_map, Bool.eq_iff_iff, List.any_eq_true, List.any_eq_true]
  apply exists_congr
  intro v
  apply and_congr_right
  intro hv
  rw [Function.comp_apply, holds_compares heq (hvs v hv)]

theorem matches?_member (hfield : Sql.isIdentifier field = true) (hv : v.isList = false) (r : Record) :
    (compares field .eq v).matches? r = (compares field .isIn v).matches? r := by
  have heq : Operator.eq.IsComparison := Operator.isComparison_of_mem_exclusive (by decide)
  have hcheck : (compares field .isIn v).checkAll Sql.checkTest = .ok () :=
    Sql.checkTest_eq_ok_iff.mpr ⟨hfield, .member field v hv⟩
  apply matches?_congr hcheck (checkAll_compares hfield heq hv)
  rw [holds_member, Test.arguments_of_scalar field _ hv, holds_compares heq hv, List.any_cons, List.any_nil, Bool.or_false]

theorem matches?_split {first second : Operator} (h : op.Splits first second) (hfield : Sql.isIdentifier field = true)
    (hv : v.isList = false) (r : Record) :
    (group .any [compares field first v, compares field second v]).matches? r = (compares field op v).matches? r := by
  obtain ⟨hop, hfirst, hsecond⟩ := h.isComparison
  have hchecks : ∀ g ∈ [compares field first v, compares field second v], g.checkAll Sql.checkTest = .ok () := by
    simp [checkAll_compares hfield hfirst hv, checkAll_compares hfield hsecond hv]
  apply matches?_congr (checkAll_compares hfield hop hv) (checkAll_group_any (List.cons_ne_nil _ _) hchecks)
  rw [holds_group_any, holds_compares hop hv]
  simp only [List.any_cons, List.any_nil, Bool.or_false, holds_compares hfirst hv, holds_compares hsecond hv]
  cases r.order field v with
  | none => rfl
  | some o => exact (h.accepts o).symm

/-- A comparison said by others makes no difference to a filter around it, wherever in the filter it is. -/
theorem Respelling.matches?_eq (h : Respelling f f') (r : Record) : f'.matches? r = f.matches? r := by
  induction h with
  | memberOfList hfield hne hvs => exact matches?_memberOfList hfield hne hvs r
  | member hfield hv => exact matches?_member hfield hv r
  | split h hfield hv => exact matches?_split h hfield hv r
  | inside k before after _ ih => exact build_group_replace ih k before after

theorem matches?_eq_of_respellings (h : Relation.EqvGen Respelling f f') (r : Record) : f'.matches? r = f.matches? r := by
  induction h with
  | rel _ _ h => exact h.matches?_eq r
  | refl => rfl
  | symm _ _ _ ih => exact ih.symm
  | trans _ _ _ _ _ ih ih' => exact ih'.trans ih

/-! ### Less, equal and greater -/

theorem matches?_compares (hfield : Sql.isIdentifier field = true) (hop : op.IsComparison) (hv : v.isList = false) (r : Record) :
    (compares field op v).matches? r = .ok ((r.order field v).any op.accepts) := by
  rw [matches?_of_checkAll (checkAll_compares hfield hop hv), holds_compares hop hv]

theorem matches?_exclusive_iff (hfield : Sql.isIdentifier field = true) (hop : op ∈ Operator.exclusive) (hv : v.isList = false)
    {r : Record} : (compares field op v).matches? r = .ok true ↔ ∃ o, r.order field v = some o ∧ op = .ofOrder o := by
  rw [matches?_compares hfield (Operator.isComparison_of_mem_exclusive hop) hv, Except.ok.injEq, Option.any_eq_true]
  simp only [Operator.accepts_iff_of_mem_exclusive hop]

/-- Comparisons agree with each other. Said by others, any number of times, one way or the other and anywhere in a filter, they
leave what the filter is of a record as it was, also where that is a failure. Of less, equal and greater no two hold of a record, and
one does exactly when the record has the column and its value there is ordered with the value of the test. -/
theorem comparisons_agree :
    (∀ f f' : Filter, Relation.EqvGen Respelling f f' → ∀ r, f'.matches? r = f.matches? r) ∧
      ∀ (field : String) (v : Value) (r : Record), Sql.isIdentifier field = true → v.isList = false →
        (∀ op ∈ Operator.exclusive, ∃ b, (compares field op v).matches? r = .ok b) ∧
        (∀ op ∈ Operator.exclusive, ∀ op' ∈ Operator.exclusive, (compares field op v).matches? r = .ok true →
          (compares field op' v).matches? r = .ok true → op = op') ∧
        ((∃ op ∈ Operator.exclusive, (compares field op v).matches? r = .ok true) ↔
          ∃ cell o, r.lookup field = some cell ∧ cell.compare? v = some o) := by
  refine ⟨fun f f' => matches?_eq_of_respellings, ?_⟩
  intro field v r hfield hv
  refine ⟨?answered, ?atMostOne, ?some⟩
  case answered =>
    intro op hop
    exact ⟨_, matches?_compares hfield (Operator.isComparison_of_mem_exclusive hop) hv r⟩
  case atMostOne =>
    intro op hop op' hop' h h'
    obtain ⟨o, ho, rfl⟩ := (matches?_exclusive_iff hfield hop hv).mp h
    obtain ⟨o', ho', rfl⟩ := (matches?_exclusive_iff hfield hop' hv).mp h'
    rw [Option.some.inj (ho.symm.trans ho')]
  case some =>
    constructor
    · rintro ⟨op, hop, h⟩
      obtain ⟨o, ho, _⟩ := (matches?_exclusive_iff hfield hop hv).mp h
      obtain ⟨cell, hcell, horder⟩ := Option.bind_eq_some_iff.mp ho
      exact ⟨cell, o, hcell, horder⟩
    · rintro ⟨cell, o, hcell, horder⟩
      have hmem := Operator.ofOrder_mem_exclusive o
      have ho : r.order field v = some o := Option.bind_eq_some_iff.mpr ⟨cell, hcell, horder⟩
      exact ⟨.ofOrder o, hmem, (matches?_exclusive_iff hfield hmem hv).mpr ⟨o, ho, rfl⟩⟩

/-- A membership and an inequality inside other groups are said by others, next to a part that is rejected and without it. The text
in `b` is not ordered with the number, so neither is it unequal to it; in `n` one of the three comparisons holds. -/
theorem comparisons_agree_beside_rejected_part :
    let two : Value := .float ⟨0x4000000000000000⟩
    let member : Filter := compares "a" .isIn (.list [.int 1, .str "x"])
    let equal : Filter := group .any [compares "a" .eq (.int 1), compares "a" .eq (.str "x")]
    let unequal : Filter := compares "b" .ne two
    let apart : Filter := group .any [compares "b" .lt two, compares "b" .gt two]
    let bad : Filter := .test ⟨"c;", .isNull, none⟩
    let r : Record := [("a", .str "x"), ("b", .str "2"), ("n", .int 2)]
    Relation.EqvGen Respelling (group .all [member, group .any [unequal]]) (group .all [equal, group .any [apart]]) ∧
      (group .all [equal, group .any [apart]]).matches? r = .ok false ∧
      (group .all [equal, group .any [apart, bad]]).matches? r = .error (.inPart "AND" 1 (.inPart "OR" 1 (.invalidIdentifier "c;"))) ∧
      ∃ op ∈ Operator.exclusive, (compares "n" op two).matches? r = .ok true := by
  intro two member equal unequal apart bad r
  have hmember : Respelling member equal := .memberOfList (by decide) (List.cons_ne_nil _ _) (by decide)
  have hunequal : Respelling unequal apart := .split .ne (by decide) rfl
  have hsame (rest : List Filter) : Relation.EqvGen Respelling (group .all [member, group .any (unequal :: rest)])
      (group .all [equal, group .any (apart :: rest)]) :=
    .trans _ _ _ (.rel _ _ (.inside .all [] [_] hmember)) (.rel _ _ (.inside .all [equal] [] (.inside .any [] rest hunequal)))
  obtain ⟨hagree, hexclusive⟩ := comparisons_agree
  obtain ⟨_, _, hsome⟩ := hexclusive "n" two r (by decide) rfl
  have hordered : (Value.int 2).compare? two = some .eq := by decide +kernel
  refine ⟨hsame [], ?_, ?_, hsome.mpr ⟨.int 2, .eq, rfl, hordered⟩⟩
  · rw [hagree _ _ (hsame []) r]
    subst member unequal r two
    rfl
  · rw [hagree _ _ (hsame [bad]) r]
    subst member unequal bad r two
    rfl

end Filter

end FilterQuery

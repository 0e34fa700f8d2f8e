import FilterQuery.Proofs.Filter.Place
import FilterQuery.Proofs.Sql.Rendering

/-!
What is wrong with a filter that does not compile. Each node of a filter can have one fault of its own, which says nothing of
the nodes below it. A filter compiles when no node has one, and what is reported otherwise is the fault of the first node that
has one, with the way to it around it. -/

namespace FilterQuery

namespace Filter

/-- What is wrong with a node itself. The field of a test is looked at before its value. -/
inductive Fault : Filter → Failure → Prop
  | empty (k : Connective) : Fault (group k []) (.invalidShape (.emptyGroup k))
  | field (t : Test) (h : Sql.isIdentifier t.field = false) : Fault (test t) (.invalidIdentifier t.field)
  | value (t : Test) (hfield : Sql.isIdentifier t.field = true) {e : Failure} (h : t.check = .error e) : Fault (test t) e

theorem fault_test_iff {t : Test} {e : Failure} : (test t).Fault e ↔ Sql.checkTest t = .error e := by
  rw [Sql.checkTest_eq_error_iff]
  constructor
  · intro h
    cases h with
    | field _ h => exact .inl ⟨h, rfl⟩
    | value _ hfield h => exact .inr ⟨hfield, h⟩
  · rintro (⟨h, rfl⟩ | ⟨hfield, h⟩)
    · exact .field t h
    · exact .value t hfield h

theorem Fault.unique {f : Filter} {e e' : Failure} (h : f.Fault e) (h' : f.Fault e') : e = e' := by
  cases f with
  | test t =>
      rw [fault_test_iff] at h h'
      exact Except.error.inj (h.symm.trans h')
  | group k parts =>
      cases h
      cases h'
      rfl

theorem Fault.bare {f : Filter} {e : Failure} (h : f.Fault e) : e.place = [] ∧ e.root = e := by
  cases h with
  | empty | field => exact ⟨rfl, rfl⟩
  | value t _ h => obtain rfl | rfl | ⟨fault, rfl⟩ := Test.exists_of_check_eq_error h <;> exact ⟨rfl, rfl⟩

theorem reports_checkAll (f : Filter) : Reports (Leads parts? f) (fun _ => Fault) (f.checkAll Sql.checkTest) := by
  induction f using induction with
  | test t =>
      rw [checkAll_test]
      cases h : Sql.checkTest t with
      | error e => exact .here (fault_test_iff.mpr h)
      | ok _ =>
          refine .ok () ?_
          intro p g e hp hfault
          obtain ⟨rfl, rfl⟩ := (leads_iff_of_none rfl).mp hp
          rw [fault_test_iff, h] at hfault
          cases hfault
  | group k parts ih =>
      cases parts with
      | nil => exact .here (.empty k)
      | cons f fs =>
          have hparts : Reports (LeadsFrom parts? k 0 (f :: fs)) (fun _ => Fault)
              (eachPart (checkAll Sql.checkTest) k 0 (f :: fs)) := .eachPart (fun _ _ _ _ => Iff.rfl) ih 0
          rw [checkAll_group _ k (List.cons_ne_nil f fs)]
          exact (hparts.ofParts rfl (by rintro e ⟨⟩)).map fun _ => ()

end Filter

namespace Sql

/-- A filter compiles exactly when none of its nodes has a fault, and fails otherwise with the fault of the first node that
has one. The failure spells the place of this node, and its root is the fault. -/
theorem compileWith_names_first_fault (exprs : ColumnExprs) (f : Filter) :
    ((∃ s, compileWith exprs f = .ok s) ↔ ∀ p g e, Leads Filter.parts? f p g → ¬g.Fault e) ∧
      ∀ e, compileWith exprs f = .error e ↔ ∃ p g cause,
        FirstFault (Leads Filter.parts? f) (fun _ => Filter.Fault) p g cause ∧ e = cause.within p ∧
          e.place = p.spelled ∧ e.root = cause := by
  have hreports : Reports (Leads Filter.parts? f) (fun _ => Filter.Fault) (compileWith exprs f) := by
    rw [compileWith_eq]
    exact f.reports_checkAll.map _
  refine ⟨hreports.exists_ok_iff, ?_⟩
  intro e
  exact hreports.eq_error_iff_spelled (fun _ _ _ _ h h' => h.unique h') (fun _ _ _ h => h.bare)

/-- Three nodes have a fault: a test with two, behind it a group without parts, and a test in the next part. -/
theorem compileWith_names_first_of_three_faults :
    let f : Filter := .group .any [.test ⟨"a", .eq, some (.int 1)⟩,
      .group .all [.test ⟨"b", .isNull, none⟩, .test ⟨"c d", .isNull, some (.int 2)⟩, .group .any []],
      .test ⟨"e", .lt, none⟩]
    let place : Place := [(.any, 1), (.all, 1)]
    compileWith [("a", "x")] f = .error (.inPart "OR" 1 (.inPart "AND" 1 (.invalidIdentifier "c d"))) ∧
      ∃ g, FirstFault (Leads Filter.parts? f) (fun _ => Filter.Fault) place g (.invalidIdentifier "c d") := by
  intro f place
  have herror : compileWith [("a", "x")] f = .error (.inPart "OR" 1 (.inPart "AND" 1 (.invalidIdentifier "c d"))) := rfl
  obtain ⟨p, g, cause, hfirst, _, hplace, hroot⟩ := ((compileWith_names_first_fault _ f).2 _).mp herror
  obtain rfl : place = p := Place.spelled_injective hplace
  obtain rfl : .invalidIdentifier "c d" = cause := hroot
  exact ⟨herror, g, hfirst⟩

end Sql

end FilterQuery

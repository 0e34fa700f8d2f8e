import FilterQuery.Proofs.Record.Holds
import FilterQuery.Proofs.Sql.Rendering

/-!
Which filters are rejected. Making a statement of a filter and asking whether a record passes it make the same checks in the
same order, and neither the expressions that stand for columns nor the record have a part in them. Both look at every part of a
group, also when the parts before it have settled the answer. -/

namespace FilterQuery

variable {f : Filter}

namespace Sql

theorem compileWith_eq_error_iff {exprs : ColumnExprs} {e : Failure} :
    compileWith exprs f = .error e ↔ f.checkAll checkTest = .error e := by
  rw [compileWith_eq, map_eq_error_iff]

end Sql

namespace Filter

theorem matches?_eq_error_iff {r : Record} {e : Failure} :
    f.matches? r = .error e ↔ f.checkAll Sql.checkTest = .error e := by
  rw [matches?_eq, map_eq_error_iff]

theorem exists_matches?_iff {r : Record} : (∃ b, f.matches? r = .ok b) ↔ f.checkAll Sql.checkTest = .ok () := by
  simp [matches?_eq, map_check_eq_ok_iff]

end Filter

/-- A filter is rejected as a condition of a statement and as a question about a record together, with the same failure,
whatever expressions stand for columns and whatever the record is. A part of a group that is rejected makes the group
rejected, at its own place, even when the parts before it have decided what the group is. -/
theorem compileWith_and_matches?_fail_together (exprs : Sql.ColumnExprs) (f : Filter) (r : Record) :
    ((∃ s, Sql.compileWith exprs f = .ok s) ↔ ∃ b, f.matches? r = .ok b) ∧
      (∀ e, Sql.compileWith exprs f = .error e ↔ f.matches? r = .error e) ∧
      (∀ r' e, f.matches? r' = .error e ↔ f.matches? r = .error e) ∧
      ∀ k before after e, (∀ g ∈ before, ∃ b, g.matches? r = .ok b) → f.matches? r = .error e →
        (Filter.group k (before ++ f :: after)).matches? r = .error (.inPart k.word before.length e) := by
  refine ⟨?_, ?_, ?_, ?_⟩
  · rw [Sql.exists_compileWith_iff, Filter.exists_matches?_iff]
  · intro e
    rw [Sql.compileWith_eq_error_iff, Filter.matches?_eq_error_iff]
  · intro r' e
    rw [Filter.matches?_eq_error_iff, Filter.matches?_eq_error_iff]
  · intro k before after e hbefore hf
    have hchecks : ∀ g ∈ before, g.checkAll Sql.checkTest = .ok () := by
      intro g hg
      exact Filter.exists_matches?_iff.mp (hbefore g hg)
    rw [Filter.matches?_eq_error_iff] at hf ⊢
    exact Filter.checkAll_group_eq_error Sql.checkTest k hchecks hf after

/-- The first part of a group of any holds, and the name in the second is still rejected. -/
theorem rejected_behind_part_that_holds :
    let f : Filter := .group .all [.test ⟨"b", .isNull, none⟩, .test ⟨"b;", .eq, some (.int 1)⟩]
    let g : Filter := .test ⟨"a", .eq, some (.int 1)⟩
    let r : Record := [("a", .int 1), ("b", .int 2)]
    g.matches? r = .ok true ∧ (Filter.group .any ([g] ++ f :: [])).matches? r =
      .error (.inPart "OR" 1 (.inPart "AND" 1 (.invalidIdentifier "b;"))) := by
  intro f g r
  have hbefore : ∀ g' ∈ [g], ∃ b, g'.matches? r = .ok b := by
    intro g' hg'
    obtain rfl := List.mem_singleton.mp hg'
    exact ⟨true, rfl⟩
  obtain ⟨_, _, _, hgroup⟩ := compileWith_and_matches?_fail_together [] f r
  exact ⟨rfl, hgroup .any [g] [] _ hbefore rfl⟩

end FilterQuery

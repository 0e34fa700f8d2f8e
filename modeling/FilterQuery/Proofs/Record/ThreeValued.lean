import FilterQuery.Proofs.Record.Holds
import FilterQuery.Record.Truth

/-!
Two values instead of three. A test that is unknown counts as one that does not hold, already at the test and inside a
membership. Nothing in a filter turns what does not hold into what does, so it is enough to follow the value true: AND and OR
are true in three values exactly where they hold in two. -/

namespace FilterQuery

namespace Truth

theorem ofOrder_eq_yes_iff {op : Operator} {o : Option Ordering} :
    ofOrder op o = yes ↔ ∃ ord, o = some ord ∧ op.accepts ord = true := by
  cases o with
  | none => simp [ofOrder]
  | some ord => simp [ofOrder, ofBool_eq_yes_iff]

theorem foldr_or_eq_yes_iff {ts : List Truth} : ts.foldr or no = yes ↔ yes ∈ ts := by
  induction ts with
  | nil => simp
  | cons t ts ih => rw [List.foldr_cons, or_eq_yes_iff, ih, List.mem_cons, eq_comm]

end Truth

namespace Test

variable (r : Record) (t : Test)

theorem holds_iff_truth : t.holds r = true ↔ t.truth r = .yes := by
  unfold holds truth
  cases hop : t.operator with
  | isNull | isNotNull => simp [Truth.ofBool_eq_yes_iff]
  | isIn =>
      cases r.lookup t.field with
      | none => simp [Truth.foldr_or_eq_yes_iff, Truth.ofOrder]
      | some cell => simp [Truth.foldr_or_eq_yes_iff, Truth.ofOrder_eq_yes_iff, Operator.accepts]
  | _ =>
      cases r.lookup t.field with
      | none => cases t.arguments <;> simp [Truth.ofOrder]
      | some cell =>
          cases t.arguments with
          | nil => simp
          | cons v vs =>
              simp only [Option.bind_some, Truth.ofOrder_eq_yes_iff]
              cases cell.compare? v <;> simp

end Test

namespace Filter

variable (r : Record)

theorem truthOfAll_eq_yes_iff (fs : List Filter) : truthOfAll r fs = .yes ↔ ∀ f ∈ fs, f.truth r = .yes := by
  induction fs with
  | nil => simp [truthOfAll]
  | cons f fs ih => rw [truthOfAll, Truth.and_eq_yes_iff, ih, List.forall_mem_cons]

theorem truthOfAny_eq_yes_iff (fs : List Filter) : truthOfAny r fs = .yes ↔ ∃ f ∈ fs, f.truth r = .yes := by
  induction fs with
  | nil => simp [truthOfAny]
  | cons f fs ih => simp [truthOfAny, Truth.or_eq_yes_iff, ih]

/-- A filter holds of a record where it is true of it in three values. -/
theorem holds_iff_truth (f : Filter) : f.holds r = true ↔ f.truth r = .yes := by
  induction f using Filter.induction with
  | test t => exact t.holds_iff_truth r
  | group k parts ih =>
      cases k with
      | all =>
          rw [holds_group_all_iff, truth, truthOfAll_eq_yes_iff]
          exact forall₂_congr ih
      | any =>
          rw [holds_group_any_iff, truth, truthOfAny_eq_yes_iff]
          constructor
          · rintro ⟨f, hf, hholds⟩
            exact ⟨f, hf, (ih f hf).mp hholds⟩
          · rintro ⟨f, hf, htruth⟩
            exact ⟨f, hf, (ih f hf).mpr htruth⟩

/-- Where a filter can be used, a record passes it exactly when it is true of the record in the logic of the database. -/
theorem matches?_eq_true_iff_truth {f : Filter} {r : Record} {b : Bool} (h : f.matches? r = .ok b) :
    b = true ↔ f.truth r = .yes := by
  have hholds : f.holds r = b := by
    rw [matches?_eq, map_check_eq_ok_iff] at h
    exact h.2
  rw [← hholds]
  exact f.holds_iff_truth r

/-- A record that passes though tests of it are unknown: one of a missing column, one of another kind, and one of a list with
values of two kinds. -/
theorem truth_of_record_with_gaps :
    let r : Record := [("a", .int 1), ("b", .str "7"), ("c", .bool true)]
    let f : Filter := .group .any [
      .group .all [.test ⟨"gone", .ne, some (.int 1)⟩, .test ⟨"b", .gt, some (.int 6)⟩],
      .group .all [.test ⟨"a", .le, some (.int 1)⟩, .test ⟨"gone", .isNull, none⟩,
        .test ⟨"c", .isIn, some (.list [.str "true", .bool true])⟩]]
    f.matches? r = .ok true ∧ f.truth r = .yes :=
  ⟨rfl, (matches?_eq_true_iff_truth rfl).mp rfl⟩

end Filter

end FilterQuery

import FilterQuery.Proofs.Filter.Fold
import FilterQuery.Record.Match

/-!
Filters on records without their checks. Whether a filter can be used does not depend on the record, and where it can be
used the answer is a fold over its tests. A filter has a normal form that says the same of every record: groups of one
part are groups of all, and membership always has a list. -/

namespace FilterQuery

/-- Whether a record passes a filter that passes its checks. -/
def Filter.holds (r : Record) (f : Filter) : Bool :=
  f.fold (Test.holds r) joinHolds

namespace Filter

/-- A filter is checked, and then holds of a record or does not. -/
theorem matches?_eq (f : Filter) (r : Record) :
    f.matches? r = (f.checkAll Sql.checkTest).map fun _ => f.holds r :=
  build_checked Sql.checkTest (Test.holds r) joinHolds f

theorem matches?_of_checkAll {f : Filter} (h : f.checkAll Sql.checkTest = .ok ()) (r : Record) :
    f.matches? r = .ok (f.holds r) := by
  rw [matches?_eq, h]
  rfl

@[simp]
theorem holds_test (r : Record) (t : Test) : (test t).holds r = t.holds r := rfl

theorem holds_group (r : Record) (k : Connective) (parts : List Filter) :
    (group k parts).holds r = joinHolds k (parts.map (holds r)) :=
  fold_group _ _ k parts

theorem holds_group_all_iff (r : Record) (parts : List Filter) :
    (group .all parts).holds r = true ↔ ∀ f ∈ parts, f.holds r = true := by
  simp [holds_group, joinHolds]

theorem holds_group_any_iff (r : Record) (parts : List Filter) :
    (group .any parts).holds r = true ↔ ∃ f ∈ parts, f.holds r = true := by
  simp [holds_group, joinHolds]

end Filter

/-! ### Normal form -/

/-- The test with one value of IN as a list of one. -/
def Test.normal (t : Test) : Test :=
  match t.operator, t.value with
  | .isIn, some (.list _) => t
  | .isIn, some v => { t with value := some (.list [v]) }
  | _, _ => t

namespace Filter

/-- A group of one part as a group of all. -/
def groupNormal (k : Connective) (parts : List Filter) : Filter :=
  match parts with
  | [f] => group .all [f]
  | _ => group k parts

/-- The filter with every group of one part as a group of all, and a list for every IN. -/
def normal (f : Filter) : Filter :=
  f.fold (fun t => test t.normal) groupNormal

@[simp]
theorem normal_test (t : Test) : (test t).normal = test t.normal := rfl

@[simp]
theorem normal_group (k : Connective) (parts : List Filter) :
    (group k parts).normal = groupNormal k (parts.map normal) :=
  fold_group _ _ k parts

end Filter

theorem Test.normal_of_ne {t : Test} (h : t.operator ≠ .isIn) : t.normal = t := by
  obtain ⟨field, op, value⟩ := t
  cases op with
  | isIn => exact absurd rfl h
  | _ => rfl

theorem Test.holds_normal (r : Record) (t : Test) : t.normal.holds r = t.holds r := by
  obtain ⟨field, op, value⟩ := t
  cases op with
  | isIn =>
      cases value with
      | none => rfl
      | some v => cases v <;> rfl
  | _ => rfl

namespace Filter

theorem holds_groupNormal (r : Record) (k : Connective) (parts : List Filter) :
    (groupNormal k parts).holds r = (group k parts).holds r := by
  unfold groupNormal
  split
  · rename_i f
    cases k <;> simp [holds_group, joinHolds]
  · rfl

/-- The normal form of a filter holds of the same records. -/
theorem holds_normal (r : Record) (f : Filter) : f.normal.holds r = f.holds r := by
  induction f using induction with
  | test t => exact t.holds_normal r
  | group k parts ih =>
      rw [normal_group, holds_groupNormal, holds_group, holds_group, List.map_map]
      congr 1
      apply List.map_congr_left
      intro f hf
      exact ih f hf

end Filter

end FilterQuery

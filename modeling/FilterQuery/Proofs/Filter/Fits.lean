import FilterQuery.Proofs.Filter.Fold
import FilterQuery.Sql.Statement

/-!
Tests whose value fits the operator. The check of a test passes for four forms of test, and a fact about tests that pass
is proved by going through them. What all of them have in common is that no argument is a list. -/

namespace FilterQuery

namespace Test

/-- The forms of a test whose value fits the operator. -/
inductive Fits : Test → Prop
  | null (field : String) (op : Operator) (hop : op.needsValue = false) : Fits ⟨field, op, none⟩
  | comparison (field : String) (op : Operator) (v : Value) (hop : op.needsValue = true) (hin : op ≠ .isIn)
      (hv : v.isList = false) : Fits ⟨field, op, some v⟩
  | member (field : String) (v : Value) (hv : v.isList = false) : Fits ⟨field, .isIn, some v⟩
  | memberOfList (field : String) (items : List Value) (hne : items ≠ [])
      (hitems : ∀ v ∈ items, v.isList = false) : Fits ⟨field, .isIn, some (.list items)⟩

theorem check_eq_ok_iff {t : Test} : t.check = .ok () ↔ t.Fits := by
  obtain ⟨field, op, value⟩ := t
  constructor
  · intro h
    cases value with
    | none =>
        cases hop : op.needsValue with
        | false => exact .null field op hop
        | true => simp [check, hop] at h
    | some v =>
        cases hop : op.needsValue with
        | false => simp [check, hop] at h
        | true =>
            by_cases hin : op = .isIn
            · subst hin
              cases v with
              | list items =>
                  simp only [check, hop, ne_eq, not_true, if_false] at h
                  split at h
                  · cases h
                  · split at h
                    · cases h
                    · rename_i hne hitems
                      exact .memberOfList field items (by simpa using hne) (by simpa using hitems)
              | _ => exact .member field _ rfl
            · cases v with
              | list items => simp [check, hop, hin] at h
              | _ => exact .comparison field op _ hop hin rfl
  · intro h
    cases h with
    | null _ _ hop => simp [check, hop]
    | comparison _ _ v hop hin hv => cases v <;> simp_all [check, Value.isList]
    | member _ v hv => cases v <;> simp_all [check, Value.isList, Operator.needsValue]
    | memberOfList _ _ hne hitems => simp_all [check, Operator.needsValue]

/-- A test that fails its check is named by its failure, the field and the operator. -/
theorem exists_of_check_eq_error {t : Test} {e : Failure} (h : t.check = .error e) :
    e = .surplusValue t.field t.operator ∨ e = .missingValue t.field t.operator ∨
      ∃ fault, e = .unfitValue t.field t.operator fault := by
  unfold check at h
  split at h
  · exact .inl (Except.error.inj h).symm
  · exact .inr (.inl (Except.error.inj h).symm)
  · cases h
  · split at h
    · exact .inr (.inr ⟨_, (Except.error.inj h).symm⟩)
    · split at h
      · exact .inr (.inl (Except.error.inj h).symm)
      · split at h
        · exact .inr (.inr ⟨_, (Except.error.inj h).symm⟩)
        · cases h
  · cases h

theorem arguments_of_scalar (field : String) (op : Operator) {v : Value} (hv : v.isList = false) :
    (⟨field, op, some v⟩ : Test).arguments = [v] := by
  cases v <;> simp_all [arguments, Value.isList]

theorem Fits.value_of_null {t : Test} (h : t.Fits) (hop : t.operator.needsValue = false) : t.value = none := by
  cases h with
  | null => rfl
  | comparison _ _ _ hneeds => rw [hneeds] at hop; cases hop
  | member | memberOfList => cases hop

theorem Fits.value_of_comparison {t : Test} (h : t.Fits) (hop : t.operator.needsValue = true)
    (hin : t.operator ≠ .isIn) : ∃ v, t.value = some v ∧ t.arguments = [v] := by
  cases h with
  | null _ _ hnull => rw [hnull] at hop; cases hop
  | comparison field op v _ _ hv => exact ⟨v, rfl, arguments_of_scalar field op hv⟩
  | member | memberOfList => exact absurd rfl hin

/-- No argument of a test that fits is a list. -/
theorem Fits.isList_of_mem_arguments {t : Test} (h : t.Fits) {v : Value} (hv : v ∈ t.arguments) :
    v.isList = false := by
  cases h with
  | null => simp [arguments] at hv
  | comparison _ _ w _ _ hw | member _ w hw =>
      rw [arguments_of_scalar _ _ hw, List.mem_singleton] at hv
      rwa [hv]
  | memberOfList _ _ _ hitems => exact hitems v hv

end Test

namespace Sql

theorem checkIdentifier_eq_ok_iff {name : String} : checkIdentifier name = .ok () ↔ isIdentifier name = true := by
  unfold checkIdentifier
  split <;> simp_all

theorem checkIdentifier_eq_error_iff {name : String} {e : Failure} :
    checkIdentifier name = .error e ↔ isIdentifier name = false ∧ e = .invalidIdentifier name := by
  unfold checkIdentifier
  cases isIdentifier name <;> simp [eq_comm (a := e)]

theorem checkTest_eq_ok_iff {t : Test} : checkTest t = .ok () ↔ isIdentifier t.field = true ∧ t.Fits := by
  rw [← checkIdentifier_eq_ok_iff, ← Test.check_eq_ok_iff, checkTest, bind_eq_ok_iff]
  constructor
  · rintro ⟨_, hname, hfits⟩
    exact ⟨hname, hfits⟩
  · rintro ⟨hname, hfits⟩
    exact ⟨(), hname, hfits⟩

theorem checkTest_eq_error_iff {t : Test} {e : Failure} : checkTest t = .error e ↔
    isIdentifier t.field = false ∧ e = .invalidIdentifier t.field ∨ isIdentifier t.field = true ∧ t.check = .error e := by
  rw [checkTest, check_bind_eq_error_iff, checkIdentifier_eq_error_iff, checkIdentifier_eq_ok_iff]

end Sql

end FilterQuery

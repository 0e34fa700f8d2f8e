import FilterQuery.Settings.Limits
import Mathlib.Tactic.SplitIfs

/-!
Limits that make sense together. Layers of settings are joined first and judged then, so limits that are in force are
those of both layers and have passed every check. -/

namespace FilterQuery

/-- Limits without a fault. -/
structure Limits.Consistent (l : Limits) : Prop where
  maxFilterBytes : 0 < l.maxFilterBytes
  maxFilterDepth : 0 < l.maxFilterDepth
  castWidth_pos : 0 < l.castWidth
  castWidth_le : l.castWidth ≤ maxCastWidth
  maxPageSize : l.maxPageSize ≤ pageBound
  defaultPageSize : l.defaultPageSize ≤ l.maxPageSize

theorem Limits.fault?_eq_none_iff {l : Limits} : l.fault? = none ↔ l.Consistent := by
  unfold fault?
  constructor
  · intro h
    split_ifs at h with hbytes hdepth hwidth hmax hdefault
    exact ⟨by omega, by omega, by omega, by omega, by omega, by omega⟩
  · intro ⟨hbytes, hdepth, hpos, hle, hmax, hdefault⟩
    rw [if_neg (by omega), if_neg (by omega), if_neg (by omega), if_neg (by omega), if_neg (by omega)]

theorem LimitSettings.atop_eq_ok_iff {upper lower : LimitSettings} {l : Limits} :
    upper.atop lower = .ok l ↔ l = (upper.orElse lower).effective ∧ l.Consistent := by
  rw [← Limits.fault?_eq_none_iff, atop]
  cases hfault : (upper.orElse lower).effective.fault? with
  | none =>
      simp only [Except.ok.injEq]
      constructor
      · rintro rfl
        exact ⟨rfl, hfault⟩
      · rintro ⟨rfl, _⟩
        rfl
  | some fault =>
      refine iff_of_false (by simp) ?_
      rintro ⟨rfl, hnone⟩
      rw [hfault] at hnone
      cases hnone

end FilterQuery

import FilterQuery.Double.Basic
import Mathlib.Algebra.Order.Field.Basic
import Mathlib.Algebra.Order.Field.Power
import Mathlib.Algebra.Order.Field.Rat
import Mathlib.Tactic.Ring

/-!
Doubles by their fields. The bits below the sign are a place and the digits down to it, added up as they stand, so that
digits which reach the next power of two carry into the place. The size of a double is what the digits say at their place,
and above a place all doubles are multiples of the power of two there. -/

namespace FilterQuery

def unitsInOne : Nat :=
  2 ^ 1074

theorem unitsInOne_pos : 0 < unitsInOne := by
  unfold unitsInOne
  apply Nat.two_pow_pos

theorem cast_unitsInOne_pos : (0 : Rat) < unitsInOne := by
  exact_mod_cast unitsInOne_pos

theorem two_pow_mul_unitsInOne (k : Nat) : 2 ^ k * unitsInOne = 2 ^ (k + 1074) := by
  rw [unitsInOne, ← Nat.pow_add]

theorem cast_two_pow (k : Nat) : ((2 ^ k : Nat) : Rat) = 2 ^ (k : Int) := by
  rw [Nat.cast_pow, zpow_natCast, Nat.cast_ofNat]

theorem cast_unitsInOne : (unitsInOne : Rat) = 2 ^ (1074 : Int) := by
  rw [unitsInOne, cast_two_pow, Nat.cast_ofNat]

namespace Double

theorem toNat_bits_ofFields (negative : Bool) {low : Nat} (hlow : low < signBit) :
    (ofFields negative low).bits.toNat = low + if negative then signBit else 0 := by
  unfold ofFields signBit at *
  rw [UInt64.toNat_ofNat']
  apply Nat.mod_eq_of_lt
  split <;> omega

theorem isNegative_ofFields (negative : Bool) {low : Nat} (hlow : low < signBit) :
    (ofFields negative low).isNegative = negative := by
  rw [isNegative, toNat_bits_ofFields negative hlow]
  cases negative with
  | false => simpa using hlow
  | true => simp

theorem exponentField_ofFields (negative : Bool) {low : Nat} (hlow : low < signBit) :
    (ofFields negative low).exponentField = low / fractionCount := by
  rw [exponentField, toNat_bits_ofFields negative hlow]
  unfold signBit fractionCount at *
  split <;> omega

theorem fractionField_ofFields (negative : Bool) {low : Nat} (hlow : low < signBit) :
    (ofFields negative low).fractionField = low % fractionCount := by
  rw [fractionField, toNat_bits_ofFields negative hlow]
  unfold signBit fractionCount at *
  split <;> omega

/-- Digits at a place are the number that they say, also when they carry into the next power of two. -/
theorem magnitude_ofFields (negative : Bool) {p m : Nat} (hm : m ≤ 2 * fractionCount) (hp : p = 0 ∨ fractionCount ≤ m)
    (hlow : p * fractionCount + m < signBit) : (ofFields negative (p * fractionCount + m)).magnitude = m * 2 ^ p := by
  rw [magnitude, exponentField_ofFields negative hlow, fractionField_ofFields negative hlow, Nat.mul_comm p,
    Nat.mul_add_div (by decide), Nat.mul_add_mod]
  by_cases hsmall : m < fractionCount
  · obtain rfl : p = 0 := hp.resolve_right (Nat.not_le.mpr hsmall)
    rw [Nat.div_eq_of_lt hsmall, Nat.mod_eq_of_lt hsmall]
    simp
  · by_cases hcarry : m = 2 * fractionCount
    · have hpow : fractionCount * 2 ^ (p + 1) = 2 * fractionCount * 2 ^ p := by ring
      rw [hcarry, Nat.mul_div_cancel _ (by decide), Nat.mul_mod_left, if_neg (by omega)]
      exact hpow
    · have hquot : m / fractionCount = 1 := by
        unfold fractionCount at *
        omega
      have hrest : fractionCount + m % fractionCount = m := by
        unfold fractionCount at *
        omega
      rw [hquot, if_neg (by omega), hrest, Nat.add_sub_cancel]
      rfl

def withSign (negative : Bool) (n : Nat) : Int :=
  if negative then -n else n

theorem units_eq_withSign (x : Double) : x.units = withSign x.isNegative x.magnitude := rfl

theorem withSign_mul (negative : Bool) (m n : Nat) : withSign negative m * n = withSign negative (m * n) := by
  unfold withSign
  split <;> simp

theorem withSign_natAbs (n : Int) : withSign (n < 0) n.natAbs = n := by
  unfold withSign
  by_cases h : n < 0
  · rw [if_pos (decide_eq_true h)]
    omega
  · rw [if_neg (by simpa using h)]
    omega

/-- A double is a multiple of a power of two, or smaller than all with a last digit at its place. -/
theorem magnitude_grid (y : Double) (p : Nat) :
    (∃ k, y.magnitude = k * 2 ^ p) ∨ p ≠ 0 ∧ y.magnitude < fractionCount * 2 ^ p := by
  have hfraction : y.fractionField < fractionCount := Nat.mod_lt _ (by decide)
  by_cases hp : p = 0
  · exact .inl ⟨y.magnitude, by rw [hp, Nat.pow_zero, Nat.mul_one]⟩
  unfold magnitude
  by_cases hzero : y.exponentField = 0
  · rw [if_pos hzero]
    exact .inr ⟨hp, Nat.lt_of_lt_of_le hfraction (Nat.le_mul_of_pos_right _ (Nat.two_pow_pos p))⟩
  · rw [if_neg hzero, Nat.pow_eq]
    by_cases hle : p ≤ y.exponentField - 1
    · refine .inl ⟨(fractionCount + y.fractionField) * 2 ^ (y.exponentField - 1 - p), ?_⟩
      rw [Nat.mul_assoc, ← Nat.pow_add, Nat.sub_add_cancel hle]
    · refine .inr ⟨hp, ?_⟩
      calc (fractionCount + y.fractionField) * 2 ^ (y.exponentField - 1)
          < (fractionCount + fractionCount) * 2 ^ (y.exponentField - 1) :=
            Nat.mul_lt_mul_of_pos_right (Nat.add_lt_add_left hfraction _) (Nat.two_pow_pos _)
        _ = fractionCount * 2 ^ (y.exponentField - 1 + 1) := by ring
        _ ≤ fractionCount * 2 ^ p := Nat.mul_le_mul_left _ (Nat.pow_le_pow_right (by decide) (by omega))

theorem isFinite_infinity (negative : Bool) : (infinity negative).isFinite = false := by
  cases negative <;> decide

theorem isFinite_ofFields (negative : Bool) {low : Nat} (hlow : low < infinityBits) :
    (ofFields negative low).isFinite = true := by
  have hsign : low < signBit := Nat.lt_trans hlow (by decide)
  rw [isFinite, exponentField_ofFields negative hsign]
  unfold infinityBits fractionCount at *
  simp only [bne_iff_ne]
  omega

/-! ### Values -/

def value (x : Double) : Rat :=
  x.units / unitsInOne

variable {x y : Double}

theorem value_lt_iff : x.value < y.value ↔ x.units < y.units := by
  rw [value, value, div_lt_div_iff_of_pos_right cast_unitsInOne_pos, Int.cast_lt]

theorem value_eq_iff : x.value = y.value ↔ x.units = y.units := by
  rw [value, value, div_left_inj' cast_unitsInOne_pos.ne', Int.cast_inj]

theorem compare_units (x y : Double) : compare x.units y.units = compare x.value y.value := by
  rcases lt_trichotomy x.units y.units with hlt | heq | hgt
  · rw [compare_lt_iff_lt.mpr hlt, compare_lt_iff_lt.mpr (value_lt_iff.mpr hlt)]
  · rw [compare_eq_iff_eq.mpr heq, compare_eq_iff_eq.mpr (value_eq_iff.mpr heq)]
  · rw [compare_gt_iff_gt.mpr hgt, compare_gt_iff_gt.mpr (value_lt_iff.mpr hgt)]

theorem isNaN_of_isFinite (hx : x.isFinite = true) : x.isNaN = false := by
  have hne : x.exponentField ≠ 2047 := by simpa [isFinite] using hx
  simp [isNaN, hne]

theorem not_isFinite_iff : x.isFinite = false ↔ x.isNaN = true ∨ x.isInfinite = true := by
  simp only [isFinite, isNaN, isInfinite, bne_eq_false_iff_eq, Bool.and_eq_true, beq_iff_eq, bne_iff_ne]
  exact ⟨fun h => (eq_or_ne x.fractionField 0).elim (fun hzero => .inr ⟨h, hzero⟩) fun hne => .inl ⟨h, hne⟩,
    fun h => h.elim And.left And.left⟩

theorem compare?_of_isFinite (hx : x.isFinite = true) (hy : y.isFinite = true) :
    x.compare? y = some (compare x.value y.value) := by
  rw [compare?, isNaN_of_isFinite hx, isNaN_of_isFinite hy, compare_units]
  rfl

/-- How far a double is from a quotient of integers. -/
theorem abs_div_sub_value (a : Int) {den : Nat} (hden : 0 < den) (x : Double) :
    |(a : Rat) / den - x.value| = (a * unitsInOne - x.units * den).natAbs / (den * unitsInOne) := by
  have hden' : (0 : Rat) < den := by exact_mod_cast hden
  have hscaled : (a : Rat) / den - x.value = ((a * unitsInOne - x.units * den : Int) : Rat) / (den * unitsInOne) := by
    rw [value, div_sub_div _ _ hden'.ne' cast_unitsInOne_pos.ne']
    push_cast
    ring
  rw [hscaled, abs_div, abs_of_pos (mul_pos hden' cast_unitsInOne_pos), Nat.cast_natAbs, Int.cast_abs]

end Double

end FilterQuery

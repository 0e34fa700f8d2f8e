import FilterQuery.Double.Numeral
import FilterQuery.Proofs.Double.Rounding

/-!
The range of doubles. The greatest double and the power of two behind it have a middle. What lies below the middle is rounded
to a finite double, and from the middle on everything is rounded to an infinity, since the power of two is the even one of
the two. -/

namespace FilterQuery

variable {num den : Nat}

/-- The middle between the greatest finite double, which is `2 ^ 1024 - 2 ^ 971`, and `2 ^ 1024`. -/
def overflowBound : Nat :=
  2 ^ 1024 - 2 ^ 970

/-- A quotient is rounded up to an even integer from the middle below it on. -/
theorem roundHalfEven_lt_iff (hden : 0 < den) (k : Nat) :
    roundHalfEven num den < 2 * k ↔ 2 * num + den < 4 * (den * k) := by
  have hdiv : den * (num / den) + num % den = num := Nat.div_add_mod num den
  have hmod : num % den < den := Nat.mod_lt num hden
  have hquot : 2 * k ≤ num / den ∨ num / den + 1 = 2 * k ∨ num / den + 2 ≤ 2 * k := by omega
  have hcases := roundHalfEven_cases num den
  obtain hge | heq | hle := hquot
  · have hmul := Nat.mul_le_mul_left den hge
    rw [Nat.mul_left_comm] at hmul
    omega
  · have hmul := congrArg (den * ·) heq
    simp only [Nat.mul_succ, Nat.mul_left_comm den 2] at hmul
    omega
  · have hmul := Nat.mul_le_mul_left den hle
    simp only [Nat.mul_succ, Nat.mul_left_comm den 2] at hmul
    omega

theorem overflowBound_pos : 0 < overflowBound := by
  decide +kernel

theorem overflowBound_le : overflowBound ≤ 10 ^ 400 := by
  decide +kernel

theorem overflowBound_mul_unitsInOne : overflowBound * unitsInOne = (2 ^ 54 - 1) * 2 ^ 2044 := by
  rw [overflowBound, Nat.sub_mul, two_pow_mul_unitsInOne, two_pow_mul_unitsInOne, Nat.sub_mul, ← Nat.pow_add, Nat.one_mul]

theorem mul_two_pow_succ (n p : Nat) : n * 2 ^ (p + 1) = 2 * (n * 2 ^ p) := by
  rw [Nat.pow_succ, Nat.mul_comm _ 2, Nat.mul_left_comm]

theorem lt_of_lastPlace_le (hnum : 0 < num) (hden : 0 < den) {p : Nat} (h : lastPlace num den ≤ p) :
    num * unitsInOne < 2 ^ 53 * (den * 2 ^ p) :=
  calc num * unitsInOne < den * 2 ^ (lastPlace num den + 53) := lt_lastPlace hnum hden
    _ ≤ den * 2 ^ (53 + p) := Nat.mul_le_mul_left den (Nat.pow_le_pow_right Nat.two_pos (by omega))
    _ = 2 ^ 53 * (den * 2 ^ p) := by rw [Nat.pow_add, Nat.mul_left_comm]

theorem le_of_le_lastPlace (hnum : 0 < num) (hden : 0 < den) {p : Nat} (hp : 0 < p) (h : p ≤ lastPlace num den) :
    2 ^ 52 * (den * 2 ^ p) ≤ num * unitsInOne :=
  calc 2 ^ 52 * (den * 2 ^ p) = den * 2 ^ (52 + p) := by rw [Nat.pow_add, Nat.mul_left_comm]
    _ ≤ den * 2 ^ (lastPlace num den + 52) := Nat.mul_le_mul_left den (Nat.pow_le_pow_right Nat.two_pos (by omega))
    _ ≤ num * unitsInOne := (lastPlace_le hnum hden).resolve_left (by omega)

namespace Double

/-- A quotient has a finite nearest double where it lies below the middle. The place of its last digit tells on which side of
the greatest power of two it is; only next to it do the digits matter. -/
theorem isFinite_ofRatio_iff_lt (negative : Bool) (hnum : 0 < num) (hden : 0 < den) :
    (ofRatio negative num den).isFinite = true ↔ num < den * overflowBound := by
  have hscaled : num < den * overflowBound ↔ num * unitsInOne < (2 ^ 54 - 1) * (den * 2 ^ 2044) := by
    rw [Nat.mul_left_comm, ← overflowBound_mul_unitsInOne, ← Nat.mul_assoc]
    exact (Nat.mul_lt_mul_right unitsInOne_pos).symm
  have hdigits := lastDigits_le hnum hden
  rw [isFinite_ofRatio_iff negative hnum, hscaled]
  rcases Nat.lt_trichotomy (lastPlace num den) (2044 + 1) with hbelow | hlast | habove
  · have hlt := lt_of_lastPlace_le hnum hden (Nat.le_of_lt_succ hbelow)
    unfold fractionCount infinityBits at *
    omega
  · have hlow : lastPlace num den * fractionCount + lastDigits num den < infinityBits ↔
        lastDigits num den < 2 * fractionCount := by
      unfold fractionCount infinityBits
      omega
    have hden' : 0 < den * 2 ^ lastPlace num den := Nat.mul_pos hden (Nat.two_pow_pos _)
    rw [hlow, lastDigits, roundHalfEven_lt_iff hden', hlast, mul_two_pow_succ den 2044]
    unfold fractionCount
    omega
  · have hle := le_of_le_lastPlace hnum hden (p := 2044 + 1 + 1) (by decide) habove
    have hfull := (le_lastDigits hnum hden).resolve_left (by omega)
    rw [mul_two_pow_succ den (2044 + 1), mul_two_pow_succ den 2044] at hle
    unfold fractionCount infinityBits at *
    omega

theorem cast_lt_mul_iff {c : Nat} (e : Int) :
    c * 10 ^ e.toNat < 10 ^ (-e).toNat * overflowBound ↔ (c : Rat) * 10 ^ e < overflowBound := by
  have hpow : (0 : Rat) < 10 ^ (-e).toNat := by positivity
  rw [← mul_lt_mul_iff_left₀ hpow, mul_assoc, zpow_mul_pow_neg (by norm_num), mul_comm (overflowBound : Rat)]
  exact_mod_cast Iff.rfl

/-- Numbers with a far-off exponent are beyond the middle. -/
theorem overflowBound_le_of_exponent {c : Nat} (hc : 0 < c) {e : Int} (he : 400 < e) :
    (overflowBound : Rat) ≤ c * 10 ^ e := by
  obtain ⟨n, rfl⟩ := Int.eq_ofNat_of_zero_le (Int.le_of_lt (Int.lt_trans (by decide) he))
  have hexponent : 400 ≤ n := by omega
  have hpow : overflowBound ≤ 10 ^ n :=
    calc overflowBound ≤ 10 ^ 400 := overflowBound_le
      _ ≤ 10 ^ n := by gcongr; decide
  rw [zpow_natCast]
  exact_mod_cast Nat.le_trans hpow (Nat.le_mul_of_pos_left _ hc)

/-- Numbers whose digits all stand far behind the point are below one. -/
theorem lt_one_of_exponent {c : Nat} {e : Int} (he : e < -(400 + (c.log2 : Int))) : (c : Rat) * 10 ^ e < 1 := by
  obtain ⟨n, hn⟩ := Int.eq_ofNat_of_zero_le (a := -e) (by omega)
  obtain rfl : e = -n := by omega
  have hlt : c < 10 ^ n :=
    calc c < 2 ^ (c.log2 + 1) := Nat.lt_log2_self
      _ ≤ 10 ^ (c.log2 + 1) := Nat.pow_le_pow_left (by decide) _
      _ ≤ 10 ^ n := Nat.pow_le_pow_right (by decide) (by omega)
  have hpow : (0 : Rat) < 10 ^ n := by positivity
  rw [zpow_neg, zpow_natCast, ← div_eq_mul_inv, div_lt_one hpow]
  exact_mod_cast hlt

/-- A decimal has a finite nearest double where it lies below the middle. -/
theorem isFinite_ofDecimal_iff (negative : Bool) (c : Nat) (e : Int) :
    (ofDecimal negative c e).isFinite = true ↔ (c : Rat) * 10 ^ e < overflowBound := by
  have hone : (1 : Rat) ≤ overflowBound := by exact_mod_cast overflowBound_pos
  have hzeros : (ofFields negative 0).isFinite = true := isFinite_ofFields negative (by decide)
  unfold ofDecimal
  split_ifs with hzero hgreat hsmall
  · rw [hzero, Nat.cast_zero, zero_mul]
    exact iff_of_true hzeros (by linarith)
  · rw [isFinite_infinity]
    exact iff_of_false Bool.false_ne_true (not_lt.mpr (overflowBound_le_of_exponent (Nat.pos_of_ne_zero hzero) hgreat))
  · exact iff_of_true hzeros (lt_of_lt_of_le (lt_one_of_exponent hsmall) hone)
  · have hnum : 0 < c * 10 ^ e.toNat := Nat.mul_pos (Nat.pos_of_ne_zero hzero) (Nat.pow_pos (by decide))
    have hden : 0 < 10 ^ (-e).toNat := Nat.pow_pos (by decide)
    exact (isFinite_ofRatio_iff_lt negative hnum hden).trans (cast_lt_mul_iff e)

end Double

namespace Numeral

/-- The number that is written, before any rounding. -/
def value (n : Numeral) : Rat :=
  Double.withSign n.negative n.coefficient * 10 ^ n.scale

theorem abs_value (n : Numeral) : |n.value| = n.coefficient * 10 ^ n.scale := by
  have hpow : (0 : Rat) < 10 ^ n.scale := by positivity
  have hsign : |((Double.withSign n.negative n.coefficient : Int) : Rat)| = n.coefficient := by
    unfold Double.withSign
    split <;> simp
  rw [value, abs_mul, hsign, abs_of_pos hpow]

/-- A numeral has a finite nearest double where it is short of the middle on either side. -/
theorem isFinite_toDouble_iff (n : Numeral) : n.toDouble.isFinite = true ↔ |n.value| < overflowBound := by
  rw [toDouble, Double.isFinite_ofDecimal_iff, abs_value]

end Numeral

end FilterQuery

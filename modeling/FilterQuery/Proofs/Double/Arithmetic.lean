import FilterQuery.Proofs.Double.Overflow

/-!
Products and quotients of doubles. The nearest double to a quotient of integers does not depend on how the quotient is written, so
that exact products and quotients, each of them a quotient in units of its own, are rounded once. What comes out is
a finite double or an infinity. -/

namespace FilterQuery

variable {num den num' den' : Nat}

/-! ### One quotient written in two ways -/

/-- There is one power of two below a number and not below its half. -/
theorem zpow_two_unique {r : Rat} {e e' : Int} (hle : 2 ^ e ≤ r) (hlt : r < 2 ^ (e + 1)) (hle' : 2 ^ e' ≤ r)
    (hlt' : r < 2 ^ (e' + 1)) : e = e' := by
  have h := (zpow_lt_zpow_iff_right₀ one_lt_two).mp (lt_of_le_of_lt hle hlt')
  have h' := (zpow_lt_zpow_iff_right₀ one_lt_two).mp (lt_of_le_of_lt hle' hlt)
  omega

theorem floorLog2_scale (hnum : 0 < num) (hden : 0 < den) {c : Nat} (hc : 0 < c) :
    floorLog2 (num * c) (den * c) = floorLog2 num den := by
  have hratio : ((num * c : Nat) : Rat) / (den * c : Nat) = num / den := by
    rw [Nat.cast_mul, Nat.cast_mul, mul_div_mul_right _ _ (by exact_mod_cast hc.ne')]
  obtain ⟨hle, hlt⟩ := floorLog2_le_lt (Nat.mul_pos hnum hc) (Nat.mul_pos hden hc)
  rw [hratio] at hle hlt
  obtain ⟨hle', hlt'⟩ := floorLog2_le_lt hnum hden
  exact zpow_two_unique hle hlt hle' hlt'

namespace Double

variable {x y : Double}

theorem ofRatio_scale (negative : Bool) (hden : 0 < den) {c : Nat} (hc : 0 < c) :
    ofRatio negative (num * c) (den * c) = ofRatio negative num den := by
  by_cases hzero : num = 0
  · rw [hzero, Nat.zero_mul, ofRatio, ofRatio, if_pos rfl, if_pos rfl]
  · have hnum : 0 < num := Nat.pos_of_ne_zero hzero
    have hplace : lastPlace (num * c) (den * c) = lastPlace num den := by
      rw [lastPlace, lastPlace, floorLog2_scale hnum hden hc]
    have hdigits : lastDigits (num * c) (den * c) = lastDigits num den := by
      rw [lastDigits, hplace, Nat.mul_right_comm, Nat.mul_right_comm den, roundHalfEven_scale _ _ hc, lastDigits]
    rw [ofRatio_eq negative (Nat.mul_pos hnum hc), hplace, hdigits, ofRatio_eq negative hnum]

/-- Equal quotients have the same nearest double. -/
theorem ofRatio_congr (negative : Bool) (hden : 0 < den) (hden' : 0 < den') (h : num * den' = num' * den) :
    ofRatio negative num den = ofRatio negative num' den' :=
  calc ofRatio negative num den = ofRatio negative (num * den') (den * den') := (ofRatio_scale negative hden hden').symm
    _ = ofRatio negative (num' * den) (den' * den) := by rw [h, Nat.mul_comm den]
    _ = ofRatio negative num' den' := ofRatio_scale negative hden' hden

/-! ### What is rounded is a finite double or an infinity -/

/-- A quotient is rounded to the same bits under either sign, and to no bits beyond those of infinity. -/
theorem exists_ofRatio_eq (num den : Nat) : ∃ low ≤ infinityBits, ∀ negative, ofRatio negative num den = ofFields negative low := by
  by_cases hzero : num = 0
  · exact ⟨0, Nat.zero_le _, fun negative => by rw [hzero, ofRatio, if_pos rfl]⟩
  · have hnum : 0 < num := Nat.pos_of_ne_zero hzero
    by_cases hbig : infinityBits ≤ lastPlace num den * fractionCount + lastDigits num den
    · exact ⟨infinityBits, Nat.le_refl _, fun negative => by rw [ofRatio_eq negative hnum, if_pos hbig, infinity]⟩
    · exact ⟨_, Nat.le_of_not_le hbig, fun negative => by rw [ofRatio_eq negative hnum, if_neg hbig]⟩

theorem lt_signBit {low : Nat} (h : low ≤ infinityBits) : low < signBit :=
  Nat.lt_of_le_of_lt h (by decide)

theorem isFinite_ofRatio_eq (negative : Bool) (num den : Nat) :
    (ofRatio negative num den).isFinite = !(ofRatio negative num den).isInfinite := by
  obtain ⟨low, hlow, heq⟩ := exists_ofRatio_eq num den
  rw [heq negative]
  obtain hlt | rfl := Nat.lt_or_eq_of_le hlow
  · have hfinite := isFinite_ofFields negative hlt
    have hne : (ofFields negative low).exponentField ≠ 2047 := by simpa [isFinite] using hfinite
    simp [hfinite, isInfinite, hne]
  · cases negative <;> decide

theorem isFinite_mul_eq (x y : Double) : (x.mul y).isFinite = !(x.mul y).isInfinite :=
  isFinite_ofRatio_eq _ _ _

/-- A finite double is short of the middle behind the greatest one. -/
theorem magnitude_lt (hx : x.isFinite = true) : x.magnitude < unitsInOne * overflowBound := by
  have hfraction : x.fractionField < fractionCount := Nat.mod_lt _ (by decide)
  have hexponent : x.exponentField < 2048 := Nat.mod_lt _ (by decide)
  have hne : x.exponentField ≠ 2047 := by simpa [isFinite] using hx
  rw [Nat.mul_comm, overflowBound_mul_unitsInOne]
  unfold magnitude
  split_ifs
  · calc x.fractionField < fractionCount := hfraction
      _ ≤ (2 ^ 54 - 1) * 2 ^ 2044 := by decide +kernel
  · have hdigits : fractionCount + x.fractionField ≤ 2 ^ 53 - 1 := by
      unfold fractionCount at *
      omega
    have hplace : x.exponentField - 1 ≤ 2045 := by omega
    calc (fractionCount + x.fractionField) * 2 ^ (x.exponentField - 1)
        ≤ (2 ^ 53 - 1) * 2 ^ 2045 := Nat.mul_le_mul hdigits (Nat.pow_le_pow_right Nat.two_pos hplace)
      _ < (2 ^ 54 - 1) * 2 ^ 2044 := by decide +kernel

/-- A finite double stays finite when it is divided by a double that is at least one. -/
theorem isFinite_div (hx : x.isFinite = true) (hy : unitsInOne ≤ y.magnitude) : (x.div y).isFinite = true := by
  have hden : 0 < y.magnitude := Nat.lt_of_lt_of_le unitsInOne_pos hy
  unfold div
  by_cases hzero : x.magnitude = 0
  · rw [hzero, ofRatio, if_pos rfl]
    exact isFinite_ofFields _ (by decide)
  · rw [isFinite_ofRatio_iff_lt _ (Nat.pos_of_ne_zero hzero) hden]
    exact Nat.lt_of_lt_of_le (magnitude_lt hx) (Nat.mul_le_mul_right _ hy)

/-! ### Signs -/

theorem isNegative_ofRatio (negative : Bool) (num den : Nat) : (ofRatio negative num den).isNegative = negative := by
  obtain ⟨low, hlow, heq⟩ := exists_ofRatio_eq num den
  rw [heq, isNegative_ofFields negative (lt_signBit hlow)]

theorem toNat_bits_abs (x : Double) : x.abs.bits.toNat = x.bits.toNat % signBit := by
  rw [abs, UInt64.toNat_ofNat', Nat.mod_eq_of_lt]
  exact Nat.lt_trans (Nat.mod_lt _ (by decide)) (by decide)

theorem isFinite_neg (x : Double) : x.neg.isFinite = x.isFinite := by
  rw [isFinite, isFinite, neg, toNat_bits_abs, exponentField_ofFields _ (Nat.mod_lt _ (by decide)), exponentField]
  unfold signBit fractionCount
  congr 1
  omega

theorem neg_ofFields (negative : Bool) {low : Nat} (hlow : low < signBit) :
    (ofFields negative low).neg = ofFields (!negative) low := by
  have hlower : (ofFields negative low).bits.toNat % signBit = low := by
    rw [toNat_bits_ofFields negative hlow]
    unfold signBit at *
    split <;> omega
  rw [neg, isNegative_ofFields negative hlow, toNat_bits_abs, hlower]

theorem neg_ofRatio (negative : Bool) (num den : Nat) :
    (ofRatio negative num den).neg = ofRatio (!negative) num den := by
  obtain ⟨low, hlow, heq⟩ := exists_ofRatio_eq num den
  rw [heq, heq, neg_ofFields negative (lt_signBit hlow)]

/-! ### The nearest doubles to products and quotients -/

theorem mul_eq (x y : Double) : x.mul y =
    ofRatio (x.isNegative != y.isNegative) (x.magnitude * y.magnitude) (unitsInOne * unitsInOne) := by
  have hsquare : Nat.pow 2 2148 = unitsInOne * unitsInOne := by
    decide +kernel
  rw [mul, hsquare]

theorem withSign_bne (s t : Bool) (m n : Nat) : withSign (s != t) (m * n) = withSign s m * withSign t n := by
  cases s <;> cases t <;> simp [withSign]

/-- No double is nearer to the exact product than the product. -/
theorem mul_nearest (hfinite : (x.mul y).isFinite = true) (z : Double) :
    |x.value * y.value - (x.mul y).value| ≤ |x.value * y.value - z.value| := by
  have hexact : x.value * y.value = (withSign (x.isNegative != y.isNegative) (x.magnitude * y.magnitude) : Rat) /
      (unitsInOne * unitsInOne : Nat) := by
    rw [value, value, div_mul_div_comm, Nat.cast_mul, withSign_bne, Int.cast_mul, units_eq_withSign, units_eq_withSign]
  rw [mul_eq] at hfinite ⊢
  rw [hexact]
  exact value_ofRatio_nearest _ _ (Nat.mul_pos unitsInOne_pos unitsInOne_pos) hfinite z

/-- No double is nearer to the exact quotient than the quotient. -/
theorem div_nearest (hy : 0 < y.magnitude) (hfinite : (x.div y).isFinite = true) (z : Double) :
    |x.value / y.value - (x.div y).value| ≤ |x.value / y.value - z.value| := by
  have hexact : x.value / y.value = (withSign (x.isNegative != y.isNegative) x.magnitude : Rat) / y.magnitude := by
    rw [value, value, div_div_div_cancel_right₀ cast_unitsInOne_pos.ne', units_eq_withSign, units_eq_withSign]
    cases x.isNegative <;> cases y.isNegative <;> simp [withSign, neg_div, div_neg]
  rw [hexact]
  exact value_ofRatio_nearest _ _ hy hfinite z

end Double

end FilterQuery

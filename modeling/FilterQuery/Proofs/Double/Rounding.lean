import FilterQuery.Double.Rounding
import FilterQuery.Proofs.Double.Fields
import Mathlib.Data.Nat.Dist
import Mathlib.Tactic.Linarith
import Mathlib.Tactic.Positivity

/-!
The nearest double. A quotient is measured in units of `2 ^ (-1074)`, so that all doubles are integers. Its last digit has
a place, and the doubles around it are the multiples of the power of two at that place; a double with digits below the
place is too small to come near. -/

namespace FilterQuery

/-! ### Nearest integers -/

variable {num den : Nat}

/-- A quotient goes to one of its neighbours, in the middle to the even one. -/
theorem roundHalfEven_cases (num den : Nat) :
    roundHalfEven num den = num / den ∧ 2 * (num % den) ≤ den ∧ (2 * (num % den) = den → roundHalfEven num den % 2 = 0) ∨
      roundHalfEven num den = num / den + 1 ∧ den ≤ 2 * (num % den) ∧
        (2 * (num % den) = den → roundHalfEven num den % 2 = 0) := by
  by_cases hlow : 2 * (num % den) < den
  · have hround : roundHalfEven num den = num / den := if_pos hlow
    exact .inl ⟨hround, by omega, by omega⟩
  · by_cases hhigh : den < 2 * (num % den)
    · have hround : roundHalfEven num den = num / den + 1 := by simp [roundHalfEven, hlow, hhigh]
      exact .inr ⟨hround, by omega, by omega⟩
    · by_cases heven : num / den % 2 = 0
      · have hround : roundHalfEven num den = num / den := by simp [roundHalfEven, hlow, hhigh, heven]
        exact .inl ⟨hround, by omega, by omega⟩
      · have hround : roundHalfEven num den = num / den + 1 := by simp [roundHalfEven, hlow, hhigh, heven]
        exact .inr ⟨hround, by omega, by omega⟩

/-- No multiple of the denominator is nearer. -/
theorem roundHalfEven_nearest (hden : 0 < den) (k : Nat) :
    num.dist (roundHalfEven num den * den) ≤ num.dist (k * den) := by
  have hdiv : den * (num / den) + num % den = num := Nat.div_add_mod num den
  have hmod : num % den < den := Nat.mod_lt num hden
  -- the multiple lies at the quotient or below it, or else a whole denominator above it
  have hside : den * k ≤ den * (num / den) ∨ den * (num / den) + den ≤ den * k := by
    rcases Nat.lt_or_ge (num / den) k with hlt | hge
    · exact .inr (Nat.mul_le_mul_left den hlt)
    · exact .inl (Nat.mul_le_mul_left den hge)
  rw [Nat.mul_comm _ den, Nat.mul_comm k den]
  unfold Nat.dist
  rcases roundHalfEven_cases num den with ⟨hround, hhalf, _⟩ | ⟨hround, hhalf, _⟩
  · rw [hround]
    omega
  · rw [hround, Nat.mul_succ]
    omega

/-- Of two multiples that are equally near, the even one is taken. -/
theorem roundHalfEven_even (hden : 0 < den) {k : Nat} (hk : k ≠ roundHalfEven num den)
    (htie : num.dist (roundHalfEven num den * den) = num.dist (k * den)) : roundHalfEven num den % 2 = 0 := by
  have hdiv : den * (num / den) + num % den = num := Nat.div_add_mod num den
  have hmod : num % den < den := Nat.mod_lt num hden
  -- all but two multiples are at least a denominator away, and the number is nearer to one of the two
  have hside : den * k + den ≤ den * (num / den) ∨ k = num / den ∨ k = num / den + 1 ∨
      den * (num / den) + 2 * den ≤ den * k := by
    rcases Nat.lt_trichotomy k (num / den) with hlt | heq | hgt
    · exact .inl (Nat.mul_le_mul_left den hlt)
    · exact .inr (.inl heq)
    · rcases Nat.eq_or_lt_of_le hgt with heq | hlt
      · exact .inr (.inr (.inl heq.symm))
      · have hmul := Nat.mul_le_mul_left den hlt
        rw [Nat.mul_succ, Nat.mul_succ] at hmul
        exact .inr (.inr (.inr (by omega)))
  have hsucc : den * (num / den + 1) = den * (num / den) + den := Nat.mul_succ _ _
  rw [Nat.mul_comm _ den, Nat.mul_comm k den] at htie
  unfold Nat.dist at htie
  rcases roundHalfEven_cases num den with ⟨hround, hhalf, heven⟩ | ⟨hround, hhalf, heven⟩
  · apply heven
    rw [hround] at hk htie
    rcases hside with hbelow | rfl | rfl | habove <;> omega
  · apply heven
    rw [hround, hsucc] at htie
    rw [hround] at hk
    rcases hside with hbelow | rfl | rfl | habove <;> omega

theorem roundHalfEven_le {k : Nat} (h : num < den * k) : roundHalfEven num den ≤ k := by
  have hquot : num / den < k := Nat.div_lt_of_lt_mul h
  rcases roundHalfEven_cases num den with ⟨hround, _⟩ | ⟨hround, _⟩ <;> omega

theorem le_roundHalfEven (hden : 0 < den) {k : Nat} (h : k * den ≤ num) : k ≤ roundHalfEven num den := by
  have hquot : k ≤ num / den := (Nat.le_div_iff_mul_le hden).mpr h
  rcases roundHalfEven_cases num den with ⟨hround, _⟩ | ⟨hround, _⟩ <;> omega

theorem roundHalfEven_mul_right (hden : 0 < den) (k : Nat) : roundHalfEven (k * den) den = k := by
  unfold roundHalfEven
  rw [Nat.mul_mod_left, Nat.mul_div_cancel k hden]
  simp [hden]

theorem roundHalfEven_scale (num den : Nat) {c : Nat} (hc : 0 < c) :
    roundHalfEven (num * c) (den * c) = roundHalfEven num den := by
  unfold roundHalfEven
  have hlow : 2 * (num % den * c) < den * c ↔ 2 * (num % den) < den := by
    rw [← Nat.mul_assoc]
    exact Nat.mul_lt_mul_right hc
  have hhigh : den * c < 2 * (num % den * c) ↔ den < 2 * (num % den) := by
    rw [← Nat.mul_assoc]
    exact Nat.mul_lt_mul_right hc
  simp only [Nat.mul_div_mul_right _ _ hc, Nat.mul_mod_mul_right, hlow, hhigh]

/-! ### The place of the last digit -/

theorem zpow_mul_pow_neg {b : Rat} (hb : b ≠ 0) (e : Int) : b ^ e * b ^ (-e).toNat = b ^ e.toNat := by
  rw [← zpow_natCast, ← zpow_natCast, ← zpow_add₀ hb]
  congr 1
  omega

theorem le_scaled_iff (hden : 0 < den) (e : Int) :
    den * Nat.pow 2 e.toNat ≤ num * Nat.pow 2 (-e).toNat ↔ (2 : Rat) ^ e ≤ num / den := by
  have hden' : (0 : Rat) < den := by exact_mod_cast hden
  have hpow : (0 : Rat) < 2 ^ (-e).toNat := by positivity
  rw [le_div_iff₀ hden', ← mul_le_mul_iff_left₀ hpow, mul_right_comm, zpow_mul_pow_neg two_ne_zero]
  simp only [Nat.pow_eq]
  rw [← Nat.cast_le (α := Rat)]
  push_cast
  rw [mul_comm]

theorem floorLog2_le_lt (hnum : 0 < num) (hden : 0 < den) :
    (2 : Rat) ^ floorLog2 num den ≤ num / den ∧ (num / den : Rat) < 2 ^ (floorLog2 num den + 1) := by
  have hden' : (0 : Rat) < den := by exact_mod_cast hden
  have hnum_le : (2 : Rat) ^ (num.log2 : Int) ≤ num := by exact_mod_cast Nat.log2_self_le hnum.ne'
  have hnum_lt : (num : Rat) < 2 ^ ((num.log2 : Int) + 1) := by exact_mod_cast Nat.lt_log2_self
  have hden_le : (2 : Rat) ^ (den.log2 : Int) ≤ den := by exact_mod_cast Nat.log2_self_le hden.ne'
  have hden_lt : (den : Rat) < 2 ^ ((den.log2 : Int) + 1) := by exact_mod_cast Nat.lt_log2_self
  generalize he : (num.log2 : Int) - den.log2 = e
  have hupper : (num / den : Rat) < 2 ^ (e + 1) := by
    rw [div_lt_iff₀ hden']
    calc (num : Rat) < 2 ^ ((num.log2 : Int) + 1) := hnum_lt
      _ = 2 ^ (e + 1) * 2 ^ (den.log2 : Int) := by
          rw [← zpow_add₀ two_ne_zero]
          congr 1
          omega
      _ ≤ 2 ^ (e + 1) * den := by gcongr
  have hlower : (2 : Rat) ^ (e - 1) ≤ num / den := by
    rw [le_div_iff₀ hden']
    calc (2 : Rat) ^ (e - 1) * den ≤ 2 ^ (e - 1) * 2 ^ ((den.log2 : Int) + 1) := by gcongr
      _ = 2 ^ (num.log2 : Int) := by
          rw [← zpow_add₀ two_ne_zero]
          congr 1
          omega
      _ ≤ num := hnum_le
  unfold floorLog2
  simp only [he, le_scaled_iff hden]
  by_cases hfits : (2 : Rat) ^ e ≤ num / den
  · rw [if_pos hfits]
    exact ⟨hfits, hupper⟩
  · rw [if_neg hfits, sub_add_cancel]
    exact ⟨hlower, not_le.mp hfits⟩

/-- The place of the last digit of a quotient, counted from the least unit. -/
def lastPlace (num den : Nat) : Nat :=
  (floorLog2 num den + 1022).toNat

theorem lt_lastPlace (hnum : 0 < num) (hden : 0 < den) :
    num * unitsInOne < den * 2 ^ (lastPlace num den + 53) := by
  obtain ⟨_, hlt⟩ := floorLog2_le_lt hnum hden
  have hden' : (0 : Rat) < den := by exact_mod_cast hden
  have hplace : floorLog2 num den + 1 + 1074 ≤ (lastPlace num den + 53 : Nat) := by
    unfold lastPlace
    omega
  rw [div_lt_iff₀ hden'] at hlt
  rw [← Nat.cast_lt (α := Rat), Nat.cast_mul, Nat.cast_mul, Nat.cast_pow, cast_unitsInOne]
  calc (num : Rat) * 2 ^ (1074 : Int) < 2 ^ (floorLog2 num den + 1) * den * 2 ^ (1074 : Int) := by gcongr
    _ = den * 2 ^ (floorLog2 num den + 1 + 1074) := by
        rw [zpow_add₀ two_ne_zero (floorLog2 num den + 1)]
        ring
    _ ≤ den * 2 ^ (lastPlace num den + 53) := by
        rw [← zpow_natCast]
        gcongr
        exact one_le_two

theorem lastPlace_le (hnum : 0 < num) (hden : 0 < den) :
    lastPlace num den = 0 ∨ den * 2 ^ (lastPlace num den + 52) ≤ num * unitsInOne := by
  obtain ⟨hle, _⟩ := floorLog2_le_lt hnum hden
  have hden' : (0 : Rat) < den := by exact_mod_cast hden
  rw [le_div_iff₀ hden'] at hle
  by_cases hzero : lastPlace num den = 0
  · exact .inl hzero
  right
  have hplace : ((lastPlace num den + 52 : Nat) : Int) = floorLog2 num den + 1074 := by
    unfold lastPlace at hzero ⊢
    omega
  rw [← Nat.cast_le (α := Rat), Nat.cast_mul, Nat.cast_mul, Nat.cast_pow, cast_unitsInOne]
  calc (den : Rat) * (2 : Nat) ^ (lastPlace num den + 52) = 2 ^ floorLog2 num den * den * 2 ^ (1074 : Int) := by
        rw [← zpow_natCast, hplace, Nat.cast_ofNat, zpow_add₀ two_ne_zero]
        ring
    _ ≤ num * 2 ^ (1074 : Int) := by gcongr

theorem lastPlace_le_of_lt (hnum : 0 < num) (hden : 0 < den) {k : Nat} (h : num < den * 2 ^ k) :
    lastPlace num den ≤ k + 1021 := by
  rcases lastPlace_le hnum hden with hzero | hle
  · omega
  · have hlt : den * 2 ^ (lastPlace num den + 52) < den * 2 ^ (k + 1074) := by
      refine Nat.lt_of_le_of_lt hle ?_
      rw [← two_pow_mul_unitsInOne, ← Nat.mul_assoc]
      exact Nat.mul_lt_mul_of_pos_right h unitsInOne_pos
    have hexponent := (Nat.pow_lt_pow_iff_right (by decide)).mp (Nat.lt_of_mul_lt_mul_left hlt)
    omega

/-- The digits of a quotient down to its last place. -/
def lastDigits (num den : Nat) : Nat :=
  roundHalfEven (num * unitsInOne) (den * 2 ^ lastPlace num den)

namespace Double

theorem lastDigits_le (hnum : 0 < num) (hden : 0 < den) : lastDigits num den ≤ 2 * fractionCount := by
  refine roundHalfEven_le ?_
  have hlt := lt_lastPlace hnum hden
  rw [Nat.pow_add, ← Nat.mul_assoc] at hlt
  exact hlt

theorem le_lastDigits (hnum : 0 < num) (hden : 0 < den) :
    lastPlace num den = 0 ∨ fractionCount ≤ lastDigits num den := by
  rcases lastPlace_le hnum hden with hzero | hle
  · exact .inl hzero
  · rw [Nat.pow_add, ← Nat.mul_assoc, Nat.mul_comm] at hle
    exact .inr (le_roundHalfEven (Nat.mul_pos hden (Nat.two_pow_pos _)) hle)

theorem ofRatio_eq (negative : Bool) (hnum : 0 < num) : ofRatio negative num den =
    if infinityBits ≤ lastPlace num den * fractionCount + lastDigits num den then infinity negative
    else ofFields negative (lastPlace num den * fractionCount + lastDigits num den) := by
  generalize hq : max (floorLog2 num den - 52) (-1074) = q
  have hplace : (q + 1074).toNat = lastPlace num den := by
    unfold lastPlace
    omega
  have hdigits : roundHalfEven (num * Nat.pow 2 (-q).toNat) (den * Nat.pow 2 q.toNat) = lastDigits num den := by
    -- both sides of the quotient are short of the same power of two
    obtain ⟨c, hnumShort, hdenShort⟩ : ∃ c, (-q).toNat + c = 1074 ∧ q.toNat + c = lastPlace num den :=
      ⟨(min q 0 + 1074).toNat, by omega, by omega⟩
    rw [lastDigits, unitsInOne, ← hnumShort, ← hdenShort, Nat.pow_add, Nat.pow_add, ← Nat.mul_assoc, ← Nat.mul_assoc,
      roundHalfEven_scale _ _ (Nat.two_pow_pos c)]
    rfl
  rw [ofRatio, if_neg hnum.ne']
  simp only [hq, hplace, hdigits]

/-! ### The nearest double -/

theorem isFinite_ofRatio_iff (negative : Bool) (hnum : 0 < num) : (ofRatio negative num den).isFinite = true ↔
    lastPlace num den * fractionCount + lastDigits num den < infinityBits := by
  rw [ofRatio_eq negative hnum]
  by_cases hbig : infinityBits ≤ lastPlace num den * fractionCount + lastDigits num den
  · rw [if_pos hbig, isFinite_infinity]
    exact iff_of_false Bool.false_ne_true (Nat.not_lt.mpr hbig)
  · rw [if_neg hbig]
    exact iff_of_true (isFinite_ofFields negative (Nat.not_le.mp hbig)) (Nat.not_le.mp hbig)

theorem units_ofRatio_zero (negative : Bool) (den : Nat) : (ofRatio negative 0 den).units = 0 := by
  rw [ofRatio, if_pos rfl]
  cases negative <;> decide

theorem units_ofRatio (negative : Bool) (hnum : 0 < num) (hden : 0 < den)
    (hfinite : (ofRatio negative num den).isFinite = true) :
    (ofRatio negative num den).units = withSign negative (lastDigits num den * 2 ^ lastPlace num den) := by
  have hlow := (isFinite_ofRatio_iff negative hnum).mp hfinite
  have hsign : lastPlace num den * fractionCount + lastDigits num den < signBit := Nat.lt_trans hlow (by decide)
  rw [ofRatio_eq negative hnum, if_neg (Nat.not_le.mpr hlow), units_eq_withSign, isNegative_ofFields negative hsign,
    magnitude_ofFields negative (lastDigits_le hnum hden) (le_lastDigits hnum hden) hsign]

theorem mul_lastPlace (num k : Nat) : k * 2 ^ lastPlace num den * den = k * (den * 2 ^ lastPlace num den) := by
  rw [Nat.mul_assoc, Nat.mul_comm den]

/-- A double with digits below the last place of a quotient is farther away than the least number that has none. -/
theorem dist_lt_of_digits_below (hnum : 0 < num) (hden : 0 < den) (hplace : lastPlace num den ≠ 0) {y : Nat}
    (hy : y < fractionCount * 2 ^ lastPlace num den) :
    (num * unitsInOne).dist (lastDigits num den * 2 ^ lastPlace num den * den) < (num * unitsInOne).dist (y * den) := by
  have hbetween : fractionCount * (den * 2 ^ lastPlace num den) ≤ num * unitsInOne := by
    have hle := (lastPlace_le hnum hden).resolve_left hplace
    rw [Nat.pow_add, ← Nat.mul_assoc, Nat.mul_comm] at hle
    exact hle
  have hbelow : y * den < fractionCount * (den * 2 ^ lastPlace num den) := by
    rw [← mul_lastPlace]
    exact Nat.mul_lt_mul_of_pos_right hy hden
  have hleast : (num * unitsInOne).dist (lastDigits num den * (den * 2 ^ lastPlace num den)) ≤
      (num * unitsInOne).dist (fractionCount * (den * 2 ^ lastPlace num den)) :=
    roundHalfEven_nearest (Nat.mul_pos hden (Nat.two_pow_pos _)) fractionCount
  rw [mul_lastPlace]
  unfold Nat.dist at *
  omega

theorem lastDigits_nearest (hnum : 0 < num) (hden : 0 < den) (y : Double) :
    (num * unitsInOne).dist (lastDigits num den * 2 ^ lastPlace num den * den) ≤
      (num * unitsInOne).dist (y.magnitude * den) := by
  rcases y.magnitude_grid (lastPlace num den) with ⟨k, hk⟩ | ⟨hplace, hsmall⟩
  · rw [hk, mul_lastPlace, mul_lastPlace]
    exact roundHalfEven_nearest (Nat.mul_pos hden (Nat.two_pow_pos _)) k
  · exact (dist_lt_of_digits_below hnum hden hplace hsmall).le

theorem lastDigits_even (hnum : 0 < num) (hden : 0 < den) {y : Double}
    (hne : y.magnitude ≠ lastDigits num den * 2 ^ lastPlace num den)
    (htie : (num * unitsInOne).dist (lastDigits num den * 2 ^ lastPlace num den * den) =
      (num * unitsInOne).dist (y.magnitude * den)) : lastDigits num den % 2 = 0 := by
  rcases y.magnitude_grid (lastPlace num den) with ⟨k, hk⟩ | ⟨hplace, hsmall⟩
  · rw [hk] at hne
    rw [hk, mul_lastPlace, mul_lastPlace] at htie
    refine roundHalfEven_even (Nat.mul_pos hden (Nat.two_pow_pos _)) ?_ htie
    rintro rfl
    exact hne rfl
  · exact absurd htie (dist_lt_of_digits_below hnum hden hplace hsmall).ne

/-- The distance of a number that is no farther than zero is found on its own side of zero. -/
theorem natAbs_withSign_sub_le {a m y : Nat} (h : a.dist m ≤ a.dist y) (hzero : a.dist m ≤ a) (s t : Bool) :
    (withSign s a - withSign s m).natAbs ≤ (withSign s a - withSign t y).natAbs := by
  unfold Nat.dist at *
  cases s <;> cases t <;> simp only [withSign, if_true, Bool.false_eq_true, if_false] <;> omega

theorem dist_eq_of_natAbs_withSign_sub_eq {a m y : Nat} (hzero : a.dist m ≤ a) {s t : Bool}
    (hne : withSign t y ≠ withSign s m)
    (htie : (withSign s a - withSign s m).natAbs = (withSign s a - withSign t y).natAbs) :
    y ≠ m ∧ a.dist m = a.dist y := by
  unfold Nat.dist at *
  cases s <;> cases t <;> simp only [withSign, if_true, Bool.false_eq_true, if_false] at hne htie <;> omega

theorem dist_lastDigits_le (hnum : 0 < num) (hden : 0 < den) :
    (num * unitsInOne).dist (lastDigits num den * 2 ^ lastPlace num den * den) ≤ num * unitsInOne := by
  have hzero := lastDigits_nearest hnum hden (ofFields false 0)
  have hmagnitude : (ofFields false 0).magnitude = 0 := by
    decide
  rw [hmagnitude, Nat.zero_mul, Nat.dist_zero_right] at hzero
  exact hzero

/-- No double is nearer to a quotient than its own. -/
theorem ofRatio_nearest (negative : Bool) (num : Nat) (hden : 0 < den)
    (hfinite : (ofRatio negative num den).isFinite = true) (y : Double) :
    (withSign negative num * unitsInOne - (ofRatio negative num den).units * den).natAbs ≤
      (withSign negative num * unitsInOne - y.units * den).natAbs := by
  by_cases hnum : num = 0
  · have hzero : withSign negative 0 = 0 := by cases negative <;> rfl
    rw [hnum, units_ofRatio_zero, hzero, Int.zero_mul, Int.zero_mul, Int.sub_zero, Int.natAbs_zero]
    exact Nat.zero_le _
  · have hnum : 0 < num := Nat.pos_of_ne_zero hnum
    rw [units_ofRatio negative hnum hden hfinite, units_eq_withSign y, withSign_mul, withSign_mul, withSign_mul]
    exact natAbs_withSign_sub_le (lastDigits_nearest hnum hden y) (dist_lastDigits_le hnum hden) negative y.isNegative

/-- Where another double is as near to a quotient as its own, its own is the even one. -/
theorem ofRatio_even (negative : Bool) (hnum : 0 < num) (hden : 0 < den)
    (hfinite : (ofRatio negative num den).isFinite = true) {y : Double} (hne : y.units ≠ (ofRatio negative num den).units)
    (htie : (withSign negative num * unitsInOne - (ofRatio negative num den).units * den).natAbs =
      (withSign negative num * unitsInOne - y.units * den).natAbs) :
    (ofRatio negative num den).bits.toNat % 2 = 0 := by
  have hlow := (isFinite_ofRatio_iff negative hnum).mp hfinite
  rw [units_ofRatio negative hnum hden hfinite, units_eq_withSign y] at hne htie
  rw [withSign_mul, withSign_mul, withSign_mul] at htie
  have hne' : withSign y.isNegative (y.magnitude * den) ≠
      withSign negative (lastDigits num den * 2 ^ lastPlace num den * den) := by
    rw [← withSign_mul, ← withSign_mul]
    exact fun heq => hne (Int.eq_of_mul_eq_mul_right (by exact_mod_cast hden.ne') heq)
  obtain ⟨hmagnitude, hdistance⟩ := dist_eq_of_natAbs_withSign_sub_eq (dist_lastDigits_le hnum hden) hne' htie
  have heven := lastDigits_even hnum hden (fun heq => hmagnitude (congrArg (· * den) heq)) hdistance
  have hsign : lastPlace num den * fractionCount + lastDigits num den < signBit := Nat.lt_trans hlow (by decide)
  rw [ofRatio_eq negative hnum, if_neg (Nat.not_le.mpr hlow), toNat_bits_ofFields negative hsign]
  unfold fractionCount signBit at *
  split <;> omega

theorem cast_den_mul_unitsInOne_pos (hden : 0 < den) : (0 : Rat) < den * unitsInOne :=
  mul_pos (by exact_mod_cast hden) cast_unitsInOne_pos

theorem value_ofRatio_nearest (negative : Bool) (num : Nat) (hden : 0 < den)
    (hfinite : (ofRatio negative num den).isFinite = true) (y : Double) :
    |(withSign negative num : Rat) / den - (ofRatio negative num den).value| ≤
      |(withSign negative num : Rat) / den - y.value| := by
  rw [abs_div_sub_value _ hden, abs_div_sub_value _ hden, div_le_div_iff_of_pos_right (cast_den_mul_unitsInOne_pos hden),
    Nat.cast_le]
  exact ofRatio_nearest negative num hden hfinite y

theorem value_ofRatio_even (negative : Bool) (hnum : 0 < num) (hden : 0 < den)
    (hfinite : (ofRatio negative num den).isFinite = true) {y : Double} (hne : y.value ≠ (ofRatio negative num den).value)
    (htie : |(withSign negative num : Rat) / den - (ofRatio negative num den).value| =
      |(withSign negative num : Rat) / den - y.value|) :
    (ofRatio negative num den).bits.toNat % 2 = 0 := by
  rw [abs_div_sub_value _ hden, abs_div_sub_value _ hden, div_left_inj' (cast_den_mul_unitsInOne_pos hden).ne',
    Nat.cast_inj] at htie
  exact ofRatio_even negative hnum hden hfinite (mt value_eq_iff.mpr hne) htie

theorem isFinite_ofRatio (negative : Bool) (hnum : 0 < num) (hden : 0 < den) {k : Nat} (hk : k ≤ 1023)
    (h : num < den * 2 ^ k) : (ofRatio negative num den).isFinite = true := by
  rw [isFinite_ofRatio_iff negative hnum]
  have hdigits := lastDigits_le hnum hden
  have hplace : lastPlace num den ≤ 2044 := Nat.le_trans (lastPlace_le_of_lt hnum hden h) (by omega)
  have hbound := Nat.mul_le_mul_right fractionCount hplace
  unfold fractionCount infinityBits at *
  omega

/-- A quotient without digits below its last place is a double. -/
theorem units_ofRatio_of_dvd (negative : Bool) (hnum : 0 < num) (hden : 0 < den)
    (hfinite : (ofRatio negative num den).isFinite = true) (hdvd : den * 2 ^ lastPlace num den ∣ num * unitsInOne) :
    (ofRatio negative num den).units * den = withSign negative num * unitsInOne := by
  obtain ⟨k, hk⟩ := hdvd
  have hdigits : lastDigits num den = k := by
    rw [lastDigits, hk, Nat.mul_comm]
    exact roundHalfEven_mul_right (Nat.mul_pos hden (Nat.two_pow_pos _)) k
  have hcomm : k * 2 ^ lastPlace num den * den = den * 2 ^ lastPlace num den * k := by ring
  rw [units_ofRatio negative hnum hden hfinite, withSign_mul, withSign_mul, hdigits, hk, hcomm]

/-! ### Integers -/

/-- What is nearest to a number is not beyond what lies on one side of it. -/
theorem le_of_le_of_nearest {r d x : Rat} (h : |r - d| ≤ |r - x|) (hx : x ≤ r) : x ≤ d := by
  by_contra hlt
  rw [abs_of_nonneg (by linarith), abs_of_nonneg (by linarith)] at h
  linarith

theorem le_of_nearest_of_le {r d x : Rat} (h : |r - d| ≤ |r - x|) (hx : r ≤ x) : d ≤ x := by
  by_contra hlt
  rw [abs_of_nonpos (by linarith), abs_of_nonpos (by linarith)] at h
  linarith

/-- So it stands to all but itself as the number does. -/
theorem compare_of_nearest {r d x : Rat} (h : |r - d| ≤ |r - x|) : compare d x = if x = d then .eq else compare r x := by
  by_cases heq : x = d
  · rw [if_pos heq]
    exact compare_eq_iff_eq.mpr heq.symm
  · rw [if_neg heq]
    rcases lt_or_gt_of_ne heq with hlt | hgt
    · have hr : x < r := not_le.mp fun hle => absurd (le_of_nearest_of_le h hle) (not_le.mpr hlt)
      rw [compare_gt_iff_gt.mpr hlt, compare_gt_iff_gt.mpr hr]
    · have hr : r < x := not_le.mp fun hle => absurd (le_of_le_of_nearest h hle) (not_le.mpr hgt)
      rw [compare_lt_iff_lt.mpr hgt, compare_lt_iff_lt.mpr hr]

variable {n : Int}

theorem isFinite_ofInt {k : Nat} (hk : k ≤ 1023) (h : n.natAbs < 2 ^ k) : (ofInt n).isFinite = true := by
  by_cases hzero : n = 0
  · subst hzero
    decide
  · exact isFinite_ofRatio _ (Int.natAbs_pos.mpr hzero) Nat.one_pos hk (by rwa [Nat.one_mul])

/-- No double is nearer to an integer than its own. -/
theorem ofInt_nearest (hfinite : (ofInt n).isFinite = true) (y : Double) :
    |(n : Rat) - (ofInt n).value| ≤ |(n : Rat) - y.value| := by
  have hnearest := value_ofRatio_nearest (n < 0) n.natAbs Nat.one_pos hfinite y
  rw [withSign_natAbs, Nat.cast_one, div_one] at hnearest
  exact hnearest

/-- Where another double is as near to an integer as its own, its own is the even one. -/
theorem ofInt_even (hfinite : (ofInt n).isFinite = true) {y : Double} (hne : y.value ≠ (ofInt n).value)
    (htie : |(n : Rat) - (ofInt n).value| = |(n : Rat) - y.value|) : (ofInt n).bits.toNat % 2 = 0 := by
  by_cases hzero : n = 0
  · subst hzero
    decide
  · have heven := value_ofRatio_even (n < 0) (Int.natAbs_pos.mpr hzero) Nat.one_pos hfinite hne
    rw [withSign_natAbs, Nat.cast_one, div_one] at heven
    exact heven htie

/-- Integers of fifty-three binary digits are doubles, and so is the next one. -/
theorem units_ofInt_of_le (h : n.natAbs ≤ 2 ^ 53) : (ofInt n).units = n * unitsInOne := by
  by_cases hzero : n = 0
  · subst hzero
    rw [ofInt, Int.natAbs_zero, units_ofRatio_zero, Int.zero_mul]
  have hnum : 0 < n.natAbs := Int.natAbs_pos.mpr hzero
  have hfinite : (ofInt n).isFinite = true := isFinite_ofInt (by decide : 54 ≤ 1023) (by omega)
  have hdvd : 1 * 2 ^ lastPlace n.natAbs 1 ∣ n.natAbs * unitsInOne := by
    rw [Nat.one_mul]
    by_cases hlast : n.natAbs = 2 ^ 53
    · have hplace : lastPlace n.natAbs 1 ≤ 54 + 1021 := lastPlace_le_of_lt hnum Nat.one_pos (by omega)
      rw [hlast] at hplace ⊢
      rw [two_pow_mul_unitsInOne]
      apply Nat.pow_dvd_pow
      omega
    · have hplace : lastPlace n.natAbs 1 ≤ 53 + 1021 := lastPlace_le_of_lt hnum Nat.one_pos (by omega)
      apply Nat.dvd_mul_left_of_dvd
      apply Nat.pow_dvd_pow
      exact hplace
  have hunits := units_ofRatio_of_dvd (n < 0) hnum Nat.one_pos hfinite hdvd
  rw [withSign_natAbs, Nat.cast_one, Int.mul_one] at hunits
  exact hunits

theorem value_ofInt_of_le (h : n.natAbs ≤ 2 ^ 53) : (ofInt n).value = n := by
  rw [value, units_ofInt_of_le h, Int.cast_mul, Int.cast_natCast, mul_div_cancel_right₀ _ cast_unitsInOne_pos.ne']

/-- An integer of more digits is not rounded to a number of fewer. -/
theorem le_abs_value_ofInt (hfinite : (ofInt n).isFinite = true) (h : 2 ^ 53 ≤ n.natAbs) :
    (2 ^ 53 : Rat) ≤ |(ofInt n).value| := by
  by_cases hneg : n < 0
  · have hedge : (ofInt (-2 ^ 53)).value = -2 ^ 53 := by
      rw [value_ofInt_of_le (by decide)]
      norm_num
    have hn : (n : Rat) ≤ -2 ^ 53 := by
      have hint : n ≤ -2 ^ 53 := by omega
      exact_mod_cast hint
    rw [← hedge] at hn
    have hle := le_of_nearest_of_le (ofInt_nearest hfinite _) hn
    rw [hedge] at hle
    exact le_trans (le_neg_of_le_neg hle) (neg_le_abs _)
  · have hedge : (ofInt (2 ^ 53)).value = 2 ^ 53 := by
      rw [value_ofInt_of_le (by decide)]
      norm_num
    have hn : (2 ^ 53 : Rat) ≤ n := by
      have hint : 2 ^ 53 ≤ n := by omega
      exact_mod_cast hint
    rw [← hedge] at hn
    have hle := le_of_le_of_nearest (ofInt_nearest hfinite _) hn
    rw [hedge] at hle
    exact le_trans hle (le_abs_self _)

end Double

end FilterQuery

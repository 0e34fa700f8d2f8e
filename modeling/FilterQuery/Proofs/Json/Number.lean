import FilterQuery.Json.Number
import FilterQuery.Proofs.Double.Arithmetic
import FilterQuery.Proofs.Text.Word

/-!
Numbers of JSON as doubles. Two roundings never lead out of the finite doubles: what would be infinite is refused. They come to the
nearest double where the digits and the power of ten are doubles themselves, for then nothing is rounded but their product
or quotient. -/

namespace FilterQuery

variable {c e : Nat}

namespace Double

theorem ofDecimal_natCast (negative : Bool) (c : Nat) (he : e ≤ 400) :
    ofDecimal negative c e = ofRatio negative (c * 10 ^ e) 1 := by
  by_cases hzero : c = 0
  · rw [ofDecimal, if_pos hzero, hzero, Nat.zero_mul, ofRatio, if_pos rfl]
  · rw [ofDecimal, if_neg hzero, if_neg (by omega), if_neg (by omega), Int.toNat_natCast, Int.toNat_neg_natCast]
    rfl

theorem ofDecimal_neg_natCast (negative : Bool) (c : Nat) (he : e ≤ 400) :
    ofDecimal negative c (-e) = ofRatio negative c (10 ^ e) := by
  by_cases hzero : c = 0
  · rw [ofDecimal, if_pos hzero, hzero, ofRatio, if_pos rfl]
  · rw [ofDecimal, if_neg hzero, if_neg (by omega), if_neg (by omega), Int.toNat_neg_natCast, Int.neg_neg,
      Int.toNat_natCast]
    exact congrArg (ofRatio negative · (10 ^ e)) (Nat.mul_one c)

theorem neg_ofDecimal (negative : Bool) (c : Nat) (e : Int) : (ofDecimal negative c e).neg = ofDecimal (!negative) c e := by
  unfold ofDecimal
  split_ifs
  · exact neg_ofFields negative (by decide)
  · exact neg_ofFields negative (by decide)
  · exact neg_ofFields negative (by decide)
  · exact neg_ofRatio negative _ _

end Double

namespace Json.Number

variable {n : Numeral} {x y : Double}

/-! ### Digits -/

theorem appendDigits_lt {word : Nat} (h : word < UInt64.size) (digits : List Char) :
    (appendDigits word digits).1 < UInt64.size := by
  induction digits generalizing word with
  | nil => exact h
  | cons c digits ih =>
      simp only [appendDigits]
      split_ifs with hlonger
      · exact ih hlonger
      · exact h

/-- Digits that a word holds are all appended. -/
theorem appendDigits_of_lt {word : Nat} {digits : List Char} (h : Nat.ofDigitChars 10 digits word < UInt64.size) :
    appendDigits word digits = (Nat.ofDigitChars 10 digits word, 0) := by
  induction digits generalizing word with
  | nil => rfl
  | cons c digits ih =>
      have hlonger := Nat.lt_of_le_of_lt (Text.le_ofDigitChars digits (Nat.ofDigitChars 10 [c] word)) h
      rw [appendDigits, if_pos hlonger]
      exact ih h

theorem significand_lt (n : Numeral) : (parts n).1 < UInt64.size :=
  appendDigits_lt (appendDigits_lt (by decide) _) _

theorem parts_of_lt (h : n.coefficient < UInt64.size) : parts n = (n.coefficient, n.scale) := by
  have hdigits : n.coefficient = Nat.ofDigitChars 10 (n.fraction.getD []) (Nat.ofDigitChars 10 n.whole 0) :=
    Nat.ofDigitChars_append 0
  have hwhole := Nat.lt_of_le_of_lt (Text.le_ofDigitChars (n.fraction.getD []) (Nat.ofDigitChars 10 n.whole 0)) (hdigits ▸ h)
  rw [parts, appendDigits_of_lt hwhole]
  dsimp only
  rw [appendDigits_of_lt (hdigits ▸ h), hdigits]
  simp

/-! ### Powers of ten -/

theorem powerOfTen_eq (he : e ≤ maxPower) : powerOfTen e = Double.ofRatio false (10 ^ e) 1 := by
  rw [powerOfTen, Double.ofDecimal_natCast false 1 (Nat.le_trans he (by decide)), Nat.one_mul]

/-- These powers are doubles: their odd part has fifty-three binary digits at most. -/
theorem powerOfTen_exact : ∀ e < 23, (powerOfTen e).magnitude = 10 ^ e * unitsInOne ∧ (powerOfTen e).isNegative = false := by
  decide +kernel

theorem one_le_powerOfTen (he : e ≤ maxPower) : unitsInOne ≤ (powerOfTen e).magnitude := by
  have hpow : 0 < 10 ^ e := Nat.pow_pos (by decide)
  have hfinite : (Double.ofRatio false (10 ^ e) 1).isFinite = true := by
    rw [Double.isFinite_ofRatio_iff_lt false hpow Nat.one_pos, Nat.one_mul]
    calc 10 ^ e ≤ 10 ^ maxPower := Nat.pow_le_pow_right (by decide) he
      _ < overflowBound := by decide +kernel
  have hone : (powerOfTen 0).value = 1 := by
    have hunits : (powerOfTen 0).units = unitsInOne := by
      decide +kernel
    rw [Double.value, hunits, Int.cast_natCast, div_self cast_unitsInOne_pos.ne']
  have hnearest := Double.value_ofRatio_nearest false (10 ^ e) Nat.one_pos hfinite (powerOfTen 0)
  have hle : (powerOfTen 0).value ≤ (powerOfTen e).value := by
    rw [powerOfTen_eq he]
    refine Double.le_of_le_of_nearest hnearest ?_
    have hsign : Double.withSign false (10 ^ e) = (10 ^ e : Nat) := rfl
    rw [hone, hsign, Nat.cast_one, div_one]
    exact_mod_cast Nat.one_le_pow e 10 (by decide)
  rw [hone, Double.value, le_div_iff₀ cast_unitsInOne_pos, one_mul] at hle
  have hunits : (unitsInOne : Int) ≤ (powerOfTen e).units := by exact_mod_cast hle
  unfold Double.units at hunits
  split at hunits <;> omega

/-! ### Results are finite -/

theorem isFinite_of_scaleUp (hx : x.isFinite = true) (h : scaleUp x e = some y) : y.isFinite = true := by
  simp only [scaleUp] at h
  split_ifs at h with _ hinfinite
  · obtain rfl := Option.some.inj h
    rw [Double.isFinite_mul_eq]
    simpa using hinfinite
  · obtain rfl := Option.some.inj h
    exact hx

theorem isFinite_scaleDown (hx : x.isFinite = true) (e : Nat) : (scaleDown x e).isFinite = true := by
  fun_induction scaleDown x e with
  | case1 x e hpower => exact Double.isFinite_div hx (one_le_powerOfTen hpower)
  | case2 => exact hx
  | case3 x e _ _ ih => exact ih (Double.isFinite_div hx (one_le_powerOfTen le_rfl))

/-- A numeral stands for a finite double or for none. -/
theorem isFinite_of_toDouble? (h : toDouble? n = some x) : x.isFinite = true := by
  have hsignificand : (Double.ofInt (parts n).1).isFinite = true :=
    Double.isFinite_ofInt (by decide : 64 ≤ 1023) (significand_lt n)
  obtain ⟨y, hy, rfl⟩ := Option.map_eq_some_iff.mp h
  have hfinite : y.isFinite = true := by
    unfold ofParts? at hy
    split_ifs at hy
    · exact isFinite_of_scaleUp hsignificand hy
    · obtain rfl := Option.some.inj hy
      exact isFinite_scaleDown hsignificand _
  split_ifs
  · rw [Double.isFinite_neg, hfinite]
  · exact hfinite

/-! ### One rounding -/

theorem isNegative_ofInt (c : Nat) : (Double.ofInt c).isNegative = false := by
  rw [Double.ofInt, Double.isNegative_ofRatio]
  simp

theorem magnitude_ofInt (hc : c ≤ 2 ^ 53) : (Double.ofInt c).magnitude = c * unitsInOne := by
  have hunits : (Double.ofInt c).units = c * unitsInOne := Double.units_ofInt_of_le (by simpa using hc)
  rw [Double.units, isNegative_ofInt, if_neg Bool.false_ne_true] at hunits
  exact_mod_cast hunits

theorem scaleUp_ofInt (hc : c ≤ 2 ^ 53) (he : e ≤ 22) :
    scaleUp (Double.ofInt c) e = some (Double.ofDecimal false c e) := by
  obtain ⟨hpower, hpositive⟩ := powerOfTen_exact e (by omega)
  have hproduct : (Double.ofInt c).mul (powerOfTen e) = Double.ofDecimal false c e := by
    rw [Double.mul_eq, isNegative_ofInt, hpositive, magnitude_ofInt hc, hpower, Double.ofDecimal_natCast false c (by omega)]
    exact Double.ofRatio_congr false (Nat.mul_pos unitsInOne_pos unitsInOne_pos) Nat.one_pos (by ring)
  have hfinite : (Double.ofDecimal false c e).isFinite = true := by
    rw [Double.isFinite_ofDecimal_iff, zpow_natCast]
    have hle : c * 10 ^ e ≤ 2 ^ 53 * 10 ^ 22 := Nat.mul_le_mul hc (Nat.pow_le_pow_right (by decide) he)
    exact_mod_cast Nat.lt_of_le_of_lt hle (by decide +kernel)
  have hinfinite : (Double.ofDecimal false c e).isInfinite = false := by
    rw [← hproduct, Double.isFinite_mul_eq] at hfinite
    rw [← hproduct]
    simpa using hfinite
  simp only [scaleUp, if_pos (show e ≤ maxPower from Nat.le_trans he (by decide)), hproduct, hinfinite, Bool.false_eq_true,
    if_false]

theorem scaleDown_ofInt (hc : c ≤ 2 ^ 53) (he : e ≤ 22) :
    scaleDown (Double.ofInt c) e = Double.ofDecimal false c (-e) := by
  obtain ⟨hpower, hpositive⟩ := powerOfTen_exact e (by omega)
  have hpow : 0 < 10 ^ e := Nat.pow_pos (by decide)
  rw [scaleDown, if_pos (Nat.le_trans he (by decide)), Double.div, isNegative_ofInt, hpositive, magnitude_ofInt hc, hpower,
    Double.ofDecimal_neg_natCast false c (by omega)]
  exact Double.ofRatio_scale false hpow unitsInOne_pos

/-- A numeral of few digits, whose point is not moved far, stands for its nearest double. -/
theorem toDouble?_of_short (hc : n.coefficient ≤ 2 ^ 53) (hlower : -22 ≤ n.scale) (hupper : n.scale ≤ 22) :
    toDouble? n = some n.toDouble := by
  have hparts : parts n = (n.coefficient, n.scale) := parts_of_lt (Nat.lt_of_le_of_lt hc (by decide))
  have hround : ofParts? n.coefficient n.scale = some (Double.ofDecimal false n.coefficient n.scale) := by
    unfold ofParts?
    by_cases hscale : 0 ≤ n.scale
    · obtain ⟨e, he⟩ := Int.eq_ofNat_of_zero_le hscale
      rw [if_pos hscale, he, Int.toNat_natCast]
      exact scaleUp_ofInt hc (by omega)
    · obtain ⟨e, he⟩ := Int.eq_ofNat_of_zero_le (a := -n.scale) (by omega)
      rw [if_neg hscale, he, Int.toNat_natCast, scaleDown_ofInt hc (by omega), ← he, Int.neg_neg]
  rw [toDouble?, hparts]
  dsimp only
  rw [hround, Option.map_some, Numeral.toDouble]
  cases n.negative with
  | true => rw [if_pos rfl, Double.neg_ofDecimal, Bool.not_false]
  | false => rw [if_neg Bool.false_ne_true]

/-- A longer numeral may be rounded twice. -/
example : toDouble? ⟨false, ['3', '1'], some "245270191439438".toList, none⟩ ≠
    some (Numeral.toDouble ⟨false, ['3', '1'], some "245270191439438".toList, none⟩) := by
  decide +kernel

/-! ### Integers and doubles -/

theorem ofNumeral?_cases (n : Numeral) : ofNumeral? n = some (.integer n.toInt) ∧ n.toInt.natAbs < 2 ^ 64 ∨
    ofNumeral? n = (toDouble? n).map .float := by
  unfold ofNumeral? Numeral.toInt
  cases n.negative with
  | true =>
      simp only [if_true]
      split
      · next hfits =>
          simp at hfits
          exact .inl ⟨rfl, by omega⟩
      · exact .inr rfl
  | false =>
      simp only [Bool.false_eq_true, if_false]
      split
      · next hfits =>
          simp at hfits
          exact .inl ⟨rfl, by omega⟩
      · exact .inr rfl

theorem natAbs_lt_of_ofNumeral? {i : Int} (h : ofNumeral? n = some (.integer i)) : i.natAbs < 2 ^ 64 := by
  obtain ⟨hinteger, hlt⟩ | hfloat := ofNumeral?_cases n
  · obtain rfl := Number.integer.inj (Option.some.inj (hinteger.symm.trans h))
    exact hlt
  · obtain ⟨_, _, heq⟩ := Option.map_eq_some_iff.mp (hfloat.symm.trans h)
    cases heq

theorem isFinite_of_ofNumeral? (h : ofNumeral? n = some (.float x)) : x.isFinite = true := by
  obtain ⟨hinteger, _⟩ | hfloat := ofNumeral?_cases n
  · cases hinteger.symm.trans h
  · obtain ⟨y, hy, heq⟩ := Option.map_eq_some_iff.mp (hfloat.symm.trans h)
    obtain rfl := Number.float.inj heq
    exact isFinite_of_toDouble? hy

end Json.Number

end FilterQuery

import FilterQuery.Proofs.Double.Rounding
import FilterQuery.Value.Basic

/-!
Numbers in order. An integer is compared with a double through the double nearest to it, and so the order is that of their
values, but for the one double to which the integer was rounded: that one counts as equal. Two integers that were rounded
to the same double are then equal to it and not to each other. -/

namespace FilterQuery

namespace Value

/-- An integer, or a double that has a value. -/
inductive IsNumber : Value → Prop
  | int (n : Int64) : IsNumber (.int n)
  | float {x : Double} (hx : x.isFinite = true) : IsNumber (.float x)

variable {m n : Int64} {x y : Double}

theorem isFinite_ofInt_toInt (n : Int64) : (Double.ofInt n.toInt).isFinite = true := by
  have hlower := Int64.le_toInt n
  have hupper := Int64.toInt_lt n
  exact Double.isFinite_ofInt (by decide : 64 ≤ 1023) (by omega)

theorem compare?_int_int (m n : Int64) : (Value.int m).compare? (.int n) = some (compare m.toInt n.toInt) := rfl

theorem compare?_float_float (hx : x.isFinite = true) (hy : y.isFinite = true) :
    (Value.float x).compare? (.float y) = some (compare x.value y.value) :=
  Double.compare?_of_isFinite hx hy

theorem compare?_int_float (n : Int64) (hx : x.isFinite = true) :
    (Value.int n).compare? (.float x) = some (compare (Double.ofInt n.toInt).value x.value) :=
  Double.compare?_of_isFinite (isFinite_ofInt_toInt n) hx

theorem compare?_float_int (hx : x.isFinite = true) (n : Int64) :
    (Value.float x).compare? (.int n) = some (compare x.value (Double.ofInt n.toInt).value) :=
  Double.compare?_of_isFinite hx (isFinite_ofInt_toInt n)

theorem some_compare_eq_iff {α : Type} [LinearOrder α] {a b : α} : some (compare a b) = some .eq ↔ a = b := by
  rw [Option.some.injEq, compare_eq_iff_eq]

/-- Integers of fewer digits are rounded to different doubles. -/
theorem le_natAbs_of_value_eq (hne : m ≠ n) (h : (Double.ofInt m.toInt).value = (Double.ofInt n.toInt).value) :
    2 ^ 53 ≤ m.toInt.natAbs := by
  by_contra hlt
  have hm := Double.value_ofInt_of_le (n := m.toInt) (by omega)
  by_cases hle : n.toInt.natAbs ≤ 2 ^ 53
  · rw [hm, Double.value_ofInt_of_le hle, Int.cast_inj] at h
    exact hne (Int64.toInt_inj.mp h)
  · have hfar := Double.le_abs_value_ofInt (isFinite_ofInt_toInt n) (by omega)
    rw [← h, hm, ← Int.cast_abs, Int.abs_eq_natAbs] at hfar
    have hint : 2 ^ 53 ≤ m.toInt.natAbs := by exact_mod_cast hfar
    exact hlt hint

/-- The value of the double nearest to a number. -/
def rounded : Value → Rat
  | int n => (Double.ofInt n.toInt).value
  | float x => x.value
  | _ => 0

variable {a b c : Value}

theorem IsNumber.rounded_eq (ha : a.IsNumber) (hb : b.IsNumber) (h : a.compare? b = some .eq) : a.rounded = b.rounded := by
  cases ha with
  | int m =>
      cases hb with
      | int n =>
          rw [compare?_int_int, some_compare_eq_iff] at h
          rw [rounded, rounded, h]
      | float hx => exact some_compare_eq_iff.mp ((compare?_int_float m hx).symm.trans h)
  | float hx =>
      cases hb with
      | int n => exact some_compare_eq_iff.mp ((compare?_float_int hx n).symm.trans h)
      | float hy => exact some_compare_eq_iff.mp ((compare?_float_float hx hy).symm.trans h)

theorem IsNumber.compare?_eq_or_int (ha : a.IsNumber) (hb : b.IsNumber) (h : a.rounded = b.rounded) :
    a.compare? b = some .eq ∨ ∃ m n, a = .int m ∧ b = .int n ∧ m ≠ n := by
  cases ha with
  | int m =>
      cases hb with
      | int n =>
          by_cases heq : m = n
          · rw [compare?_int_int, some_compare_eq_iff, heq]
            exact .inl rfl
          · exact .inr ⟨m, n, rfl, rfl, heq⟩
      | float hx => exact .inl ((compare?_int_float m hx).trans (some_compare_eq_iff.mpr h))
  | float hx =>
      cases hb with
      | int n => exact .inl ((compare?_float_int hx n).trans (some_compare_eq_iff.mpr h))
      | float hy => exact .inl ((compare?_float_float hx hy).trans (some_compare_eq_iff.mpr h))

/-- Equality passes on from number to number, but not from an integer to another through the double that both are rounded
to. -/
theorem IsNumber.compare?_eq_trans (ha : a.IsNumber) (hb : b.IsNumber) (hc : c.IsNumber)
    (hab : a.compare? b = some .eq) (hbc : b.compare? c = some .eq) :
    a.compare? c = some .eq ∨ ∃ m n x, a = .int m ∧ b = .float x ∧ c = .int n ∧ m ≠ n ∧
      (Double.ofInt m.toInt).value = x.value ∧ (Double.ofInt n.toInt).value = x.value := by
  have hleft := ha.rounded_eq hb hab
  have hright := hb.rounded_eq hc hbc
  rcases ha.compare?_eq_or_int hc (hleft.trans hright) with heq | ⟨m, n, rfl, rfl, hne⟩
  · exact .inl heq
  · cases hb with
    | int k =>
        rw [compare?_int_int, some_compare_eq_iff] at hab hbc
        exact absurd (Int64.toInt_inj.mp (hab.trans hbc)) hne
    | float hx => exact .inr ⟨m, n, _, rfl, rfl, rfl, hne, hleft, hright.symm⟩

/-- An integer is compared with a double through the double nearest to it, of two the even one. So the order is that of
the values, but for the nearest double itself, which counts as equal: the order is exact when the nearest double is not
the other number or is the integer, as it is for all of up to fifty-three binary digits. Equality passes on among numbers,
except from an integer to another through the double that is nearest to both; then both have more digits. -/
theorem compare?_through_nearest (n : Int64) {x : Double} (hx : x.isFinite = true) :
    let d := Double.ofInt n.toInt
    d.isFinite = true ∧
      (∀ y : Double, |(n.toInt : Rat) - d.value| ≤ |(n.toInt : Rat) - y.value| ∧
        (y.value ≠ d.value → |(n.toInt : Rat) - d.value| = |(n.toInt : Rat) - y.value| → d.bits.toNat % 2 = 0)) ∧
      (Value.int n).compare? (.float x) = some (if x.value = d.value then .eq else compare (n.toInt : Rat) x.value) ∧
      (Value.float x).compare? (.int n) = ((Value.int n).compare? (.float x)).map Ordering.swap ∧
      ((Value.int n).compare? (.float x) = some (compare (n.toInt : Rat) x.value) ↔
        (x.value = d.value → d.value = n.toInt)) ∧
      (n.toInt.natAbs ≤ 2 ^ 53 → d.value = n.toInt) ∧
      ∀ a b c : Value, a.IsNumber → b.IsNumber → c.IsNumber → a.compare? b = some .eq → b.compare? c = some .eq →
        a.compare? c = some .eq ∨ ∃ l m y, a = .int l ∧ b = .float y ∧ c = .int m ∧ l ≠ m ∧
          (Double.ofInt l.toInt).value = y.value ∧ (Double.ofInt m.toInt).value = y.value ∧
          2 ^ 53 ≤ l.toInt.natAbs ∧ 2 ^ 53 ≤ m.toInt.natAbs := by
  intro d
  have hfinite : d.isFinite = true := isFinite_ofInt_toInt n
  have hnearest (y : Double) := Double.ofInt_nearest hfinite y
  have horder := compare?_int_float n hx
  rw [Double.compare_of_nearest (hnearest x)] at horder
  refine ⟨hfinite, fun y => ⟨hnearest y, Double.ofInt_even hfinite⟩, horder, ?swap, ?exact, Double.value_ofInt_of_le,
    ?equality⟩
  case swap => rw [compare?_float_int hx n, compare?_int_float n hx, Option.map_some, Std.OrientedOrd.eq_swap]
  case exact =>
    rw [horder, Option.some.injEq]
    by_cases heq : x.value = d.value
    · rw [if_pos heq, heq, eq_comm, compare_eq_iff_eq, eq_comm]
      exact ⟨fun h _ => h, fun h => h rfl⟩
    · rw [if_neg heq]
      exact iff_of_true rfl fun h => absurd h heq
  case equality =>
    intro a b c ha hb hc hab hbc
    rcases ha.compare?_eq_trans hb hc hab hbc with heq | ⟨l, m, y, rfl, rfl, rfl, hne, hl, hm⟩
    · exact .inl heq
    · have hshared := hl.trans hm.symm
      exact .inr ⟨l, m, y, rfl, rfl, rfl, hne, hl, hm, le_natAbs_of_value_eq hne hshared,
        le_natAbs_of_value_eq hne.symm hshared.symm⟩

/-- Two to the 53rd as a double, and the integer after it, which is rounded to that. -/
theorem compare?_through_two_pow_fiftyThree :
    let x : Double := ⟨0x4340000000000000⟩
    x.isFinite = true ∧ (Value.int 9007199254740993).compare? (.float x) = some .eq ∧
      (Value.float x).compare? (.int 9007199254740993) = some .eq ∧
      (Double.ofInt 9007199254740992).value = x.value ∧ (Double.ofInt 9007199254740993).value = x.value := by
  intro x
  have hx : x.isFinite = true := by decide
  have hrounded : x.value = (Double.ofInt 9007199254740993).value := Double.value_eq_iff.mpr (by decide +kernel)
  obtain ⟨_, _, hint, hfloat, _, _, hequality⟩ := compare?_through_nearest 9007199254740993 hx
  have heq : (Value.int 9007199254740993).compare? (.float x) = some .eq := hint.trans (congrArg some (if_pos hrounded))
  have hleft : (Value.int 9007199254740992).compare? (.float x) = some .eq := by decide +kernel
  have hright : (Value.float x).compare? (.int 9007199254740993) = some .eq := by
    rw [hfloat, heq]
    rfl
  refine ⟨hx, heq, hright, ?_⟩
  rcases hequality _ _ _ (.int _) (.float hx) (.int _) hleft hright with habsurd | ⟨m, n, y, hm, hy, hn, _, hmy, hny, _⟩
  · cases habsurd
  · obtain rfl := Value.int.inj hm
    obtain rfl := Value.float.inj hy
    obtain rfl := Value.int.inj hn
    exact ⟨hmy, hny⟩

/-- The order is not exact there, and equality does not pass on. -/
theorem not_exact_after_two_pow_fiftyThree :
    let x : Double := ⟨0x4340000000000000⟩
    x.isFinite = true ∧ x.value < 9007199254740993 ∧ (Value.int 9007199254740993).compare? (.float x) = some .eq ∧
      (Value.int 9007199254740992).compare? (.float x) = some .eq ∧
      (Value.float x).compare? (.int 9007199254740993) = some .eq ∧
      (Value.int 9007199254740992).compare? (.int 9007199254740993) = some .lt := by
  intro x
  have hvalue : x.value = (Double.ofInt (2 ^ 53)).value := Double.value_eq_iff.mpr (by decide +kernel)
  refine ⟨by decide, ?_, by decide +kernel, by decide +kernel, by decide +kernel, by decide⟩
  rw [hvalue, Double.value_ofInt_of_le (by decide)]
  norm_num

end Value

end FilterQuery

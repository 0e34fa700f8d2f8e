import FilterQuery.Proofs.Text.Order
import FilterQuery.Proofs.Value.Numbers

/-!
The order of values as a partial order. Values are of four kinds, the numbers being one of them, and those of different kinds are not
ordered, nor are lists and NaN. Less is passed on throughout. Equality is not, since an integer counts as equal to the double that
it was rounded to; but among integers, texts and truth values only the same value is equal. -/

namespace FilterQuery

namespace Double

variable {x y : Double}

theorem compare?_swap (x y : Double) : y.compare? x = (x.compare? y).map Ordering.swap := by
  rw [compare?, compare?, Bool.or_comm]
  split
  · rfl
  · exact congrArg some Std.OrientedOrd.eq_swap

theorem compare?_eq_none_iff : x.compare? y = none ↔ x.isNaN = true ∨ y.isNaN = true := by
  rw [compare?, ← Bool.or_eq_true]
  split <;> simp_all

theorem compare?_of_isNaN (hx : x.isNaN = false) (hy : y.isNaN = false) : x.compare? y = some (compare x.value y.value) := by
  rw [compare?, hx, hy, compare_units]
  rfl

/-- Of two numbers the greater one has the greater nearest double, or the same. -/
theorem le_of_nearest {r s d e : Rat} (hd : |r - d| ≤ |r - e|) (he : |s - e| ≤ |s - d|) (h : r < s) : d ≤ e := by
  by_contra hlt
  have hcross := mul_pos (sub_pos.mpr h) (sub_pos.mpr (not_le.mp hlt))
  have hr := sq_le_sq.mpr hd
  have hs := sq_le_sq.mpr he
  linarith

end Double

namespace Value

/-- What a value is; integers and doubles are of one kind. -/
inductive Kind
  | truth
  | number
  | text
  | list
deriving DecidableEq

def kind : Value → Kind
  | bool _ => .truth
  | int _ | float _ => .number
  | str _ => .text
  | list _ => .list

/-- Whether the value is a double without a value. -/
def isNaN : Value → Bool
  | float x => x.isNaN
  | _ => false

/-- A truth value, an integer or a text: what has a form of its own for each value. -/
inductive IsExact : Value → Prop
  | bool (b : Bool) : IsExact (.bool b)
  | int (n : Int64) : IsExact (.int n)
  | str (s : String) : IsExact (.str s)

/-- An integer, or a double that is a number or an infinity. -/
inductive HasSize : Value → Prop
  | int (n : Int64) : HasSize (.int n)
  | float {x : Double} (hx : x.isNaN = false) : HasSize (.float x)

/-- Two values of one kind that both have a place in its order. -/
inductive Comparable : Value → Value → Prop
  | bools (p q : Bool) : Comparable (.bool p) (.bool q)
  | texts (s t : String) : Comparable (.str s) (.str t)
  | numbers {a b : Value} (ha : a.HasSize) (hb : b.HasSize) : Comparable a b

variable {a b c : Value} {o : Ordering}

theorem compare?_swap (a b : Value) : b.compare? a = (a.compare? b).map Ordering.swap := by
  cases a with
  | bool p =>
      cases b with
      | bool q => exact congrArg some Std.OrientedOrd.eq_swap
      | _ => rfl
  | int m =>
      cases b with
      | int n => exact congrArg some Std.OrientedOrd.eq_swap
      | float y => exact Double.compare?_swap _ y
      | _ => rfl
  | float x =>
      cases b with
      | int _ | float _ => exact Double.compare?_swap x _
      | _ => rfl
  | str s =>
      cases b with
      | str t => exact congrArg some Std.OrientedCmp.eq_swap
      | _ => rfl
  | list _ => cases b <;> rfl

theorem isNaN_ofInt_toInt (n : Int64) : (Double.ofInt n.toInt).isNaN = false :=
  Double.isNaN_of_isFinite (isFinite_ofInt_toInt n)

theorem compare?_eq_none_iff : a.compare? b = none ↔
    a.isList = true ∨ b.isList = true ∨ a.isNaN = true ∨ b.isNaN = true ∨ a.kind ≠ b.kind := by
  cases a <;> cases b <;>
    simp [compare?, toDouble?, isList, isNaN, kind, Double.compare?_eq_none_iff, isNaN_ofInt_toInt]

theorem comparable_of_compare? (h : a.compare? b = some o) : Comparable a b := by
  have hplaced := mt compare?_eq_none_iff.mpr (h ▸ Option.some_ne_none o)
  cases a with
  | bool p =>
      cases b with
      | bool q => exact .bools p q
      | _ => cases h
  | str s =>
      cases b with
      | str t => exact .texts s t
      | _ => cases h
  | int m =>
      cases b with
      | int n => exact .numbers (.int m) (.int n)
      | float y => exact .numbers (.int m) (.float (by simpa [isList, isNaN, kind] using hplaced))
      | _ => cases h
  | float x =>
      have hx : x.isNaN = false := by
        simp_all [isNaN]
      cases b with
      | int n => exact .numbers (.float hx) (.int n)
      | float y => exact .numbers (.float hx) (.float (by simp_all [isNaN]))
      | _ => cases h
  | list items => cases b <;> cases h

/-! ### Less is passed on -/

/-- Rounding keeps the order of integers, though it may make two of them one. -/
theorem rounded_int_le {m n : Int64} (h : m.toInt < n.toInt) : (Value.int m).rounded ≤ (Value.int n).rounded :=
  Double.le_of_nearest (Double.ofInt_nearest (isFinite_ofInt_toInt m) _) (Double.ofInt_nearest (isFinite_ofInt_toInt n) _)
    (Int.cast_lt.mpr h)

theorem HasSize.compare?_eq_lt_iff (ha : a.HasSize) (hb : b.HasSize) : a.compare? b = some .lt ↔
    a.rounded < b.rounded ∨ ∃ m n, a = .int m ∧ b = .int n ∧ m.toInt < n.toInt := by
  cases ha with
  | int m =>
      cases hb with
      | int n =>
          rw [compare?_int_int, Option.some.injEq, compare_lt_iff_lt]
          constructor
          · intro h
            exact .inr ⟨m, n, rfl, rfl, h⟩
          · rintro (hlt | ⟨_, _, hm, hn, h⟩)
            · by_contra hle
              rcases (not_lt.mp hle).lt_or_eq with h | heq
              · exact (rounded_int_le h).not_gt hlt
              · rw [Int64.toInt_inj.mp heq] at hlt
                exact lt_irrefl _ hlt
            · cases hm
              cases hn
              exact h
      | float hy =>
          have horder : (Value.int m).compare? (.float _) = _ := Double.compare?_of_isNaN (isNaN_ofInt_toInt m) hy
          simp [horder, compare_lt_iff_lt, rounded]
  | float hx =>
      cases hb with
      | int n =>
          have horder : (Value.float _).compare? (.int n) = _ := Double.compare?_of_isNaN hx (isNaN_ofInt_toInt n)
          simp [horder, compare_lt_iff_lt, rounded]
      | float hy =>
          have horder : (Value.float _).compare? (.float _) = _ := Double.compare?_of_isNaN hx hy
          simp [horder, compare_lt_iff_lt, rounded]

theorem HasSize.rounded_le (ha : a.HasSize) (hb : b.HasSize) (h : a.compare? b = some .lt) : a.rounded ≤ b.rounded := by
  obtain hlt | ⟨m, n, rfl, rfl, hmn⟩ := (ha.compare?_eq_lt_iff hb).mp h
  · exact hlt.le
  · exact rounded_int_le hmn

theorem compare?_lt_trans (hab : a.compare? b = some .lt) (hbc : b.compare? c = some .lt) : a.compare? c = some .lt := by
  cases comparable_of_compare? hab with
  | bools p q =>
      cases comparable_of_compare? hbc with
      | bools _ r => exact congrArg some (Std.TransCmp.lt_trans (Option.some.inj hab) (Option.some.inj hbc))
      | numbers hb => cases hb
  | texts s t =>
      cases comparable_of_compare? hbc with
      | texts _ u => exact congrArg some (Std.TransCmp.lt_trans (Option.some.inj hab) (Option.some.inj hbc))
      | numbers hb => cases hb
  | numbers ha hb =>
      cases comparable_of_compare? hbc with
      | bools | texts => cases hb
      | numbers _ hc =>
          -- where one of the two steps is between doubles apart, so is the whole; else all three are integers
          rw [ha.compare?_eq_lt_iff hc]
          obtain hlt | ⟨l, m, rfl, rfl, hlm⟩ := (ha.compare?_eq_lt_iff hb).mp hab
          · exact .inl (hlt.trans_le (hb.rounded_le hc hbc))
          · obtain hlt | ⟨m', n, hm, rfl, hmn⟩ := (hb.compare?_eq_lt_iff hc).mp hbc
            · exact .inl ((ha.rounded_le hb hab).trans_lt hlt)
            · cases hm
              exact .inr ⟨l, n, rfl, rfl, hlm.trans hmn⟩

/-! ### Values that are equal to themselves alone -/

theorem IsExact.compare?_eq_iff (ha : a.IsExact) (hb : b.IsExact) : a.compare? b = some .eq ↔ a = b := by
  cases ha <;> cases hb <;> simp [compare?, toDouble?, Int64.toInt_inj]

theorem IsExact.equal_iff (ha : a.IsExact) (hb : b.IsExact) : a.equal b = true ↔ a = b := by
  cases ha <;> cases hb <;> simp [equal]

theorem IsExact.exists_compare? (ha : a.IsExact) (hb : b.IsExact) (h : a.kind = b.kind) : ∃ o, a.compare? b = some o := by
  rw [← Option.ne_none_iff_exists', Ne, compare?_eq_none_iff]
  cases ha <;> cases hb <;> simp_all [isList, isNaN]

/-- Values are partially ordered. The other way round the order is reversed. Two values are not ordered exactly when one of them is
a list or NaN or they are not of one kind. Less is passed on, also from integers to doubles and back. Among integers, texts and
truth values any two of a kind are ordered, and equal only when they are the same; texts are ordered by their bytes. -/
theorem compare?_is_partial_order (a b : Value) :
    b.compare? a = (a.compare? b).map Ordering.swap ∧
      (a.compare? b = none ↔ a.isList = true ∨ b.isList = true ∨ a.isNaN = true ∨ b.isNaN = true ∨ a.kind ≠ b.kind) ∧
      (∀ c, a.compare? b = some .lt → b.compare? c = some .lt → a.compare? c = some .lt) ∧
      (a.IsExact → b.IsExact → (a.kind = b.kind → ∃ o, a.compare? b = some o) ∧ (a.compare? b = some .eq ↔ a = b) ∧
        (a.equal b = true ↔ a = b)) ∧
      ∀ s t, a = .str s → b = .str t → a.compare? b = some (compare (Text.utf8Bytes s) (Text.utf8Bytes t)) := by
  refine ⟨compare?_swap a b, compare?_eq_none_iff, fun c => compare?_lt_trans, ?exact, ?bytes⟩
  case exact =>
    intro ha hb
    exact ⟨ha.exists_compare? hb, ha.compare?_eq_iff hb, ha.equal_iff hb⟩
  case bytes =>
    rintro s t rfl rfl
    rfl

/-- Less is passed on from an integer that no double is, through a double, to an integer; a letter beyond ASCII comes after those
within, and neither NaN nor the number that a text spells is ordered with an integer. -/
theorem compare?_is_partial_order_past_two_pow_fiftyThree :
    let m : Value := .int 9007199254740993
    let x : Value := .float ⟨0x4340000000000002⟩
    m.compare? (.int 9007199254740998) = some .lt ∧ x.compare? m = some .gt ∧
      (Value.str "zebra").compare? (.str "\u00e9") = some .lt ∧ (Value.str "\u00e9").compare? (.str "zebra") = some .gt ∧
      ((Value.str "z").compare? (.str "z") = some .eq ↔ Value.str "z" = .str "z") ∧
      (Value.float .nan).compare? m = none ∧ m.compare? (.str "9007199254740993") = none := by
  intro m x
  have hmx : m.compare? x = some .lt := by decide +kernel
  have hxn : x.compare? (.int 9007199254740998) = some .lt := by decide +kernel
  obtain ⟨hswap, _, htrans, _⟩ := compare?_is_partial_order m x
  obtain ⟨hback, _, _, _, hbytes⟩ := compare?_is_partial_order (.str "zebra") (.str "\u00e9")
  obtain ⟨_, _, _, hexact, _⟩ := compare?_is_partial_order (.str "z") (.str "z")
  obtain ⟨_, hnan, _⟩ := compare?_is_partial_order (.float .nan) m
  obtain ⟨_, htext, _⟩ := compare?_is_partial_order m (.str "9007199254740993")
  have hletters := (hbytes _ _ rfl rfl).trans (by decide : _ = some Ordering.lt)
  refine ⟨htrans _ hmx hxn, ?_, hletters, ?_, (hexact (.str "z") (.str "z")).2.1, hnan.mpr (by decide), htext.mpr (by decide)⟩
  · rw [hswap, hmx]
    rfl
  · rw [hback, hletters]
    rfl

end Value

end FilterQuery

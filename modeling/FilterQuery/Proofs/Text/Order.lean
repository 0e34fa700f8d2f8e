import FilterQuery.Text.Order

/-!
The order of texts is a strict linear order. Only equal texts have equal bytes, and everything else comes from the order
of bytes. -/

namespace FilterQuery.Text

theorem utf8Bytes_inj {a b : String} (h : utf8Bytes a = utf8Bytes b) : a = b := by
  apply String.toByteArray_inj.mp
  apply ByteArray.ext
  exact Array.toList_inj.mp h

instance : Std.TransCmp byteOrder :=
  inferInstanceAs (Std.TransCmp (compareOn utf8Bytes))

theorem byteOrder_self (a : String) : byteOrder a a = .eq :=
  Std.ReflCmp.compare_self

instance : Std.LawfulEqCmp byteOrder where
  compare_self := byteOrder_self _
  eq_of_compare := by
    intro a b h
    exact utf8Bytes_inj (Std.LawfulEqCmp.eq_of_compare h)

theorem byteOrder_eq_iff {a b : String} : byteOrder a b = .eq ↔ a = b :=
  Std.LawfulEqCmp.compare_eq_iff_eq

theorem byteOrder_ne_gt_iff {a b : String} : byteOrder a b ≠ .gt ↔ byteOrder a b = .lt ∨ a = b := by
  rw [← byteOrder_eq_iff]
  cases byteOrder a b <;> simp

end FilterQuery.Text

import FilterQuery.Text.Utf8
import FilterQuery.Text.Word
import Mathlib.Tactic.SplitIfs

/-!
Words of digits are read exactly. An ASCII digit is one byte, and no other character has a byte that is a digit's in all of its
places, so whether a text is all digits can be seen from its bytes. The word that digits are read as is their value, and where
none is read their value is no word. -/

namespace FilterQuery.Text

variable {m n w : UInt64} {c : Char} {cs : List Char} {s : String}

/-! ### Steps of the reading -/

theorem mulWord?_eq_some_iff : mulWord? m n = some w ↔ w.toNat = m.toNat * n.toNat := by
  unfold mulWord?
  have hw := w.toNat_lt_size
  by_cases h : m.toNat * n.toNat < UInt64.size
  · rw [if_pos h, Option.some.injEq, ← UInt64.toNat_inj, UInt64.toNat_mul, Nat.mod_eq_of_lt h, eq_comm]
  · rw [if_neg h]
    exact iff_of_false (by simp) (by omega)

theorem addWord?_eq_some_iff : addWord? m n = some w ↔ w.toNat = m.toNat + n.toNat := by
  unfold addWord?
  have hw := w.toNat_lt_size
  by_cases h : m.toNat + n.toNat < UInt64.size
  · rw [if_pos h, Option.some.injEq, ← UInt64.toNat_inj, UInt64.toNat_add, Nat.mod_eq_of_lt h, eq_comm]
  · rw [if_neg h]
    exact iff_of_false (by simp) (by omega)

theorem isDigit_iff : c.isDigit = true ↔ 48 ≤ c.toNat ∧ c.toNat ≤ 57 := by
  simp only [Char.isDigit, Bool.and_eq_true, decide_eq_true_eq, ge_iff_le, UInt32.le_iff_toNat_le]
  exact Iff.rfl

theorem toNat_toUInt8_of_isDigit (hc : c.isDigit = true) : c.toUInt8.toNat = c.toNat := by
  obtain ⟨_, hle⟩ := isDigit_iff.mp hc
  have hbyte : c.toUInt8.toNat = c.toNat % 256 := UInt32.toNat_toUInt8 c.val
  omega

/-- Where the digit behind a word makes a word, it is ten times the word and the digit. -/
theorem pushDigit?_eq_some_iff (hc : c.isDigit = true) :
    pushDigit? n c.toUInt8 = some w ↔ w.toNat = 10 * n.toNat + (c.toNat - '0'.toNat) := by
  obtain ⟨hlower, hupper⟩ := isDigit_iff.mp hc
  have hbyte := toNat_toUInt8_of_isDigit hc
  have hdigit : isDigitByte c.toUInt8 = true := by
    simp [isDigitByte, hbyte, hlower, hupper]
  have hvalue : (c.toUInt8.toUInt64 - 48).toNat = c.toNat - '0'.toNat := by
    rw [UInt64.toNat_sub_of_le _ _ (by simpa [UInt64.le_iff_toNat_le, hbyte]), UInt8.toNat_toUInt64, hbyte]
    rfl
  have hten : (10 : UInt64).toNat = 10 := rfl
  rw [pushDigit?, if_pos hdigit, Option.bind_eq_some_iff]
  simp only [mulWord?_eq_some_iff, addWord?_eq_some_iff, hvalue, hten]
  constructor
  · rintro ⟨tens, htens, hw⟩
    omega
  · intro hw
    have htens : n.toNat * 10 < UInt64.size := by
      have hlt := w.toNat_lt_size
      omega
    refine ⟨.ofNatLT (n.toNat * 10) htens, UInt64.toNat_ofNatLT, ?_⟩
    rw [UInt64.toNat_ofNatLT]
    omega

theorem le_ofDigitChars (cs : List Char) (k : Nat) : k ≤ Nat.ofDigitChars 10 cs k := by
  induction cs generalizing k with
  | nil => exact Nat.le_of_eq Nat.ofDigitChars_nil.symm
  | cons c cs ih =>
      have hstep := ih (10 * k + (c.toNat - '0'.toNat))
      rw [Nat.ofDigitChars_cons]
      omega

/-- Digits behind a word are read as their value, however many there are. The value never falls below the word read so far, so a
step that is refused has passed the greatest word already. -/
theorem foldlM_pushDigit?_eq_some_iff (hcs : ∀ c ∈ cs, c.isDigit = true) :
    (cs.map Char.toUInt8).foldlM pushDigit? n = some w ↔ w.toNat = Nat.ofDigitChars 10 cs n.toNat := by
  induction cs generalizing n with
  | nil => simp [← UInt64.toNat_inj, eq_comm]
  | cons c cs ih =>
      obtain ⟨hc, hcs⟩ := List.forall_mem_cons.mp hcs
      rw [List.map_cons, List.foldlM_cons, Option.bind_eq_bind, Option.bind_eq_some_iff, Nat.ofDigitChars_cons]
      simp only [pushDigit?_eq_some_iff hc, ih hcs]
      constructor
      · rintro ⟨m, hm, hw⟩
        rw [hw, hm]
      · intro hw
        have hlt : 10 * n.toNat + (c.toNat - '0'.toNat) < UInt64.size :=
          Nat.lt_of_le_of_lt (le_ofDigitChars cs _) (hw ▸ w.toNat_lt_size)
        exact ⟨.ofNatLT _ hlt, UInt64.toNat_ofNatLT, by rw [UInt64.toNat_ofNatLT, hw]⟩

/-! ### Texts as bytes -/

theorem utf8Bytes_eq_flatMap (s : String) : utf8Bytes s = s.toList.flatMap String.utf8EncodeChar := by
  rw [utf8Bytes, String.toUTF8_eq_toByteArray, ← String.utf8Encode_toList, List.utf8Encode, List.toList_data_toByteArray]

theorem utf8EncodeChar_of_isDigit (hc : c.isDigit = true) : String.utf8EncodeChar c = [c.toUInt8] := by
  obtain ⟨_, hle⟩ := isDigit_iff.mp hc
  have hsize : c.utf8Size = 1 := by
    rw [Char.utf8Size_eq_one_iff, UInt32.le_iff_toNat_le]
    exact Nat.le_trans hle (by decide)
  exact String.utf8EncodeChar_eq_singleton hsize

/-- Beyond ASCII the last byte of a character is one that continues it, and below it the byte is the character. -/
theorem all_isDigitByte_utf8EncodeChar (c : Char) : (String.utf8EncodeChar c).all isDigitByte = c.isDigit := by
  rw [Bool.eq_iff_iff, isDigit_iff]
  have hval : c.val.toNat = c.toNat := rfl
  simp only [String.utf8EncodeChar, hval]
  split_ifs <;> simp [isDigitByte] <;> omega

theorem all_isDigitByte_utf8Bytes (s : String) : (utf8Bytes s).all isDigitByte = s.toList.all Char.isDigit := by
  rw [utf8Bytes_eq_flatMap, List.all_flatMap]
  simp only [all_isDigitByte_utf8EncodeChar]

theorem utf8Bytes_of_digits (hs : ∀ c ∈ s.toList, c.isDigit = true) : utf8Bytes s = s.toList.map Char.toUInt8 := by
  rw [utf8Bytes_eq_flatMap, List.map_eq_flatMap, List.flatMap_def, List.flatMap_def]
  congr 1
  apply List.map_congr_left
  intro c hc
  exact utf8EncodeChar_of_isDigit (hs c hc)

/-- A text of digits is read as its value, and is not read where that is no word. -/
theorem readWord?_eq_some_iff (hs : ∀ c ∈ s.toList, c.isDigit = true) (hne : s ≠ "") :
    readWord? (utf8Bytes s) = some w ↔ w.toNat = Nat.ofDigitChars 10 s.toList 0 := by
  obtain ⟨c, cs, hcs⟩ := List.exists_cons_of_ne_nil (mt String.toList_eq_nil_iff.mp hne)
  have hc : c.isDigit = true := hs c (by simp [hcs])
  have hplus : c.toUInt8 ≠ 43 := by
    intro h
    have hcode : c.toNat = 43 := (toNat_toUInt8_of_isDigit hc).symm.trans (congrArg UInt8.toNat h)
    have hlower := (isDigit_iff.mp hc).1
    omega
  rw [readWord?, utf8Bytes_of_digits hs]
  have hread := foldlM_pushDigit?_eq_some_iff (n := 0) (w := w) hs
  rw [hcs] at hread ⊢
  simpa [hplus] using hread

end FilterQuery.Text

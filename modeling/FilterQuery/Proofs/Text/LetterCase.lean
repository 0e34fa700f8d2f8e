import FilterQuery.Text.Blank
import Mathlib.Data.List.Forall2
import Mathlib.Tactic.SplitIfs

/-!
The case of ASCII letters. A capital is 32 code points below its small letter, and no other character is changed when a text is
put in one case: letters that only the tables of Unicode pair stay apart, and blanks stay blanks. -/

namespace FilterQuery.Text

/-- The characters are one, but for the case of an ASCII letter. -/
def SameLetter (c d : Char) : Prop :=
  c = d ∨ (97 ≤ c.toNat ∧ c.toNat ≤ 122 ∧ c.toNat = d.toNat + 32) ∨ (97 ≤ d.toNat ∧ d.toNat ≤ 122 ∧ d.toNat = c.toNat + 32)

theorem toNat_toLower (c : Char) :
    c.toLower.toNat = if 65 ≤ c.toNat ∧ c.toNat ≤ 90 then c.toNat + 32 else c.toNat := by
  unfold Char.toLower
  simp only [ge_iff_le, UInt32.le_iff_toNat_le]
  split
  next h =>
    have hcapital : 65 ≤ c.toNat ∧ c.toNat ≤ 90 := h
    rw [if_pos hcapital]
    exact (UInt32.toNat_add c.val 32).trans (Nat.mod_eq_of_lt (show c.toNat + 32 < 2 ^ 32 by omega))
  next h => exact (if_neg h).symm

theorem toNat_toUpper (c : Char) :
    c.toUpper.toNat = if 97 ≤ c.toNat ∧ c.toNat ≤ 122 then c.toNat - 32 else c.toNat := by
  unfold Char.toUpper
  simp only [UInt32.le_iff_toNat_le]
  split
  next h =>
    have hsmall : 97 ≤ c.toNat ∧ c.toNat ≤ 122 := h
    rw [if_pos hsmall]
    -- capitals are 32 below the small letters, which is added as its complement
    exact (UInt32.toNat_add c.val 4294967264).trans (show (c.toNat + 4294967264) % 2 ^ 32 = c.toNat - 32 by omega)
  next h => exact (if_neg h).symm

theorem toLower_eq_iff {c letter : Char} (h : letter.isLower = true) :
    c.toLower = letter ↔ c = letter ∨ c = letter.toUpper := by
  obtain ⟨hlow, hhigh⟩ := Bool.and_eq_true_iff.mp h
  have hsmall : 97 ≤ letter.toNat ∧ letter.toNat ≤ 122 := ⟨of_decide_eq_true hlow, of_decide_eq_true hhigh⟩
  rw [← Char.toNat_inj, ← Char.toNat_inj, ← Char.toNat_inj, toNat_toLower, toNat_toUpper]
  split_ifs <;> omega

theorem toUpper_eq_toUpper_iff {c d : Char} : c.toUpper = d.toUpper ↔ SameLetter c d := by
  rw [SameLetter, ← Char.toNat_inj, ← Char.toNat_inj, toNat_toUpper, toNat_toUpper]
  split_ifs <;> omega

theorem map_toUpper_eq_iff {s t : List Char} : s.map Char.toUpper = t.map Char.toUpper ↔ List.Forall₂ SameLetter s t := by
  rw [← List.forall₂_eq_eq_eq, List.forall₂_map_left_iff, List.forall₂_map_right_iff]
  simp only [toUpper_eq_toUpper_iff]

theorem isBlank_toUpper (c : Char) : isBlank c.toUpper = isBlank c := by
  rw [Bool.eq_iff_iff]
  simp only [isBlank, toNat_toUpper, Bool.or_eq_true, Bool.and_eq_true, decide_eq_true_eq, beq_iff_eq]
  split_ifs <;> omega

end FilterQuery.Text

import FilterQuery.Text.Blank

/-!
Blanks at the ends of a text. Trimming cuts them off and nothing else, so it does not matter how many of them are put around a
text before it is trimmed. -/

namespace FilterQuery.Text

variable {s u v : List Char} {c d : Char}

theorem ne_of_isBlank (hc : isBlank c = true) (hd : isBlank d = false) : c ≠ d := by
  rintro rfl
  cases hc.symm.trans hd

/-- No printing character of ASCII is a blank. -/
theorem toNat_of_isBlank (hc : isBlank c = true) : c.toNat ≤ 0x20 ∨ 0x7f < c.toNat := by
  simp only [isBlank, Bool.or_eq_true, Bool.and_eq_true, decide_eq_true_eq, beq_iff_eq] at hc
  omega

theorem isDigit_of_isBlank (hc : isBlank c = true) : c.isDigit = false := by
  have hnat := toNat_of_isBlank hc
  rw [← Bool.not_eq_true]
  intro hdigit
  have hbounds : 0x30 ≤ c.toNat ∧ c.toNat ≤ 0x39 := by simpa [Char.isDigit, UInt32.le_iff_toNat_le] using hdigit
  omega

/-! ### Trimming -/

theorem trimEnd_append (hv : ∀ c ∈ v, isBlank c = true) (s : List Char) : trimEnd (s ++ v) = trimEnd s := by
  have hreverse : ∀ c ∈ v.reverse, isBlank c = true := fun c hc => hv c (List.mem_reverse.mp hc)
  rw [trimEnd, List.reverse_append, List.dropWhile_append_of_pos hreverse, trimEnd]

theorem trim_append_left (hu : ∀ c ∈ u, isBlank c = true) (s : List Char) : trim (u ++ s) = trim s := by
  rw [trim, List.dropWhile_append_of_pos hu, trim]

theorem trim_append_right (hv : ∀ c ∈ v, isBlank c = true) (s : List Char) : trim (s ++ v) = trim s := by
  rw [trim, List.dropWhile_append, trim]
  split
  next hempty =>
    rw [List.isEmpty_iff.mp hempty, ← List.nil_append (v.dropWhile isBlank)]
    exact trimEnd_append (fun c hc => hv c (List.dropWhile_sublist isBlank |>.mem hc)) []
  next => exact trimEnd_append hv _

/-- A text is what is left of it by trimming, with blanks around it. -/
theorem exists_eq_trim (s : List Char) : ∃ u v, (∀ c ∈ u, isBlank c = true) ∧ (∀ c ∈ v, isBlank c = true) ∧
    s = u ++ trim s ++ v := by
  refine ⟨s.takeWhile isBlank, ((s.dropWhile isBlank).reverse.takeWhile isBlank).reverse, ?_, ?_, ?_⟩
  · exact List.all_eq_true.mp List.all_takeWhile
  · exact fun c hc => List.all_eq_true.mp List.all_takeWhile c (List.mem_reverse.mp hc)
  · rw [trim, trimEnd, List.append_assoc, ← List.reverse_append, List.takeWhile_append_dropWhile, List.reverse_reverse,
      List.takeWhile_append_dropWhile]

theorem utf8ByteSize_trim_le (text : String) : (String.ofList (trim text.toList)).utf8ByteSize ≤ text.utf8ByteSize := by
  obtain ⟨u, v, _, _, heq⟩ := exists_eq_trim text.toList
  have hparts : text = String.ofList u ++ String.ofList (trim text.toList) ++ String.ofList v := by
    rw [← String.ofList_append, ← String.ofList_append, ← heq, String.ofList_toList]
  have hsize := congrArg String.utf8ByteSize hparts
  rw [String.utf8ByteSize_append, String.utf8ByteSize_append] at hsize
  omega

end FilterQuery.Text

import FilterQuery.Proofs.Sql.Quoting
import FilterQuery.Sql.Statement

/-!
Names on the allow-list. None of their characters means anything in a statement, so that quoting one only puts it between
backticks. -/

namespace FilterQuery.Sql

theorem isNameChar_of_mem_of_isIdentifier {name : String} (h : isIdentifier name = true) {c : Char}
    (hc : c ∈ name.toList) : isNameChar c = true := by
  simp only [isIdentifier, Bool.and_eq_true, List.all_eq_true] at h
  exact h.2 c hc

/-- A character off the allow-list stands in no name. -/
theorem not_mem_of_isIdentifier {name : String} (h : isIdentifier name = true) {c : Char}
    (hc : isNameChar c = false) : c ∉ name.toList := by
  intro hmem
  rw [isNameChar_of_mem_of_isIdentifier h hmem] at hc
  cases hc

theorem flatMap_quoteChar_of_not_mem {cs : List Char} (h : '\x60' ∉ cs) : cs.flatMap quoteChar = cs := by
  induction cs with
  | nil => rfl
  | cons c cs ih =>
      rw [List.mem_cons, not_or] at h
      obtain ⟨hc, hcs⟩ := h
      rw [List.flatMap_cons, ih hcs, quoteChar, if_neg (Ne.symm hc), List.singleton_append]

/-- A name on the allow-list is quoted as it is. -/
theorem quote_of_isIdentifier {name : String} (h : isIdentifier name = true) :
    quote name = '\x60' :: name.toList ++ ['\x60'] := by
  rw [quote, flatMap_quoteChar_of_not_mem (not_mem_of_isIdentifier h (by decide))]

end FilterQuery.Sql

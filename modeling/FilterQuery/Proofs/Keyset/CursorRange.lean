import FilterQuery.Proofs.Keyset.Refusal

/-!
The range of cursors. A cursor of digits is read into a word of 64 bits, which need not hold it, and is yet judged by its exact value:
what no word holds is beyond the bound of 32 bits as well. A cursor with anything else in it is a text, and texts have no range. -/

namespace FilterQuery.PageRequest

variable {q : PageRequest} {c : String}

theorem isBeyondBound_iff : isBeyondBound c = true ↔
    (∀ b ∈ Text.utf8Bytes c, Text.isDigitByte b = true) ∧ 4294967295 < Nat.ofDigitChars 10 c.toList 0 := by
  rw [isBeyondBound, ← Text.all_isDigitByte_utf8Bytes, Bool.and_eq_true, List.all_eq_true, decide_eq_true_eq]
  exact Iff.rfl

theorem message_cursorTooGreat (c : String) :
    (Failure.cursorTooGreat c Limits.pageBound).message = "cursor " ++ c ++ " exceeds maximum of 4294967295" := by
  have hbound : " exceeds maximum of " ++ toString Limits.pageBound = " exceeds maximum of 4294967295" := by
    decide
  rw [← hbound, ← String.append_assoc]
  rfl

theorem resumeAfter_of_cursor (hc : q.cursor = some c) (hne : c ≠ "") : q.resumeAfter = some c := by
  simp [resumeAfter, hc, hne]

/-- No other part of a request is refused as a cursor. -/
theorem statement_eq_cursorTooGreat_iff {text : String} {max : Nat} : q.statement = .error (.cursorTooGreat text max) ↔
    q.pageSize ≤ q.maxPageSize ∧ q.resumeAfter = some text ∧ isBeyondBound text = true ∧ max = Limits.pageBound := by
  rw [statement_eq_error_iff_or]
  constructor
  · rintro (h | ⟨_, _, _, htail⟩)
    · cases h with
      | cursor hsize hc h => exact ⟨hsize, hc, h, rfl⟩
      | filter _ _ _ _ h => exact absurd rfl (Sql.root_ne_of_compile h rfl)
    · cases (tailStatement_eq_error_iff.mp htail).2
  · rintro ⟨hsize, hc, h, rfl⟩
    exact .inl (.cursor hsize hc h)

/-- Where the number of rows is within its cap, the bounds of a request are decided by its cursor. One of digits alone is within
them exactly when its value is at most the greatest word of 32 bits, with no end to the digits and to the zeros before them; any
other cursor is within them. What is refused is refused for the cursor, as it was given, and the request with it. -/
theorem bounds_of_cursor (hsize : q.pageSize ≤ q.maxPageSize) (hc : q.cursor = some c) (hne : c ≠ "") :
    let bounds : Except Failure Unit := do q.checkPageSize; q.checkCursor
    let value := Nat.ofDigitChars 10 c.toList 0
    ((∀ b ∈ Text.utf8Bytes c, Text.isDigitByte b = true) → (bounds = .ok () ↔ value ≤ 4294967295)) ∧
      ((∃ b ∈ Text.utf8Bytes c, Text.isDigitByte b = false) → bounds = .ok ()) ∧
      (∀ e, bounds = .error e → e = .cursorTooGreat c 4294967295 ∧ e.code = "RANGE_EXCEEDED" ∧
        e.message = "cursor " ++ c ++ " exceeds maximum of 4294967295") ∧
      ∀ text max, q.statement = .error (.cursorTooGreat text max) ↔
        (∀ b ∈ Text.utf8Bytes c, Text.isDigitByte b = true) ∧ 4294967295 < value ∧ text = c ∧ max = 4294967295 := by
  intro bounds value
  have hresume := resumeAfter_of_cursor hc hne
  have hbounds : bounds = q.checkCursor := by
    show (q.checkPageSize >>= fun _ => q.checkCursor) = _
    rw [checkPageSize_eq_ok_iff.mpr hsize]
    rfl
  have hpasses : q.checkCursor = .ok () ↔ ¬isBeyondBound c = true := by
    simp [checkCursor_eq_ok_iff, hresume]
  rw [hbounds]
  refine ⟨?digits, ?text, ?refused, ?statement⟩
  case digits =>
    intro hdigits
    rw [hpasses, isBeyondBound_iff, and_iff_right hdigits, Nat.not_lt]
  case text =>
    rintro ⟨b, hb, hother⟩
    rw [hpasses, isBeyondBound_iff]
    rintro ⟨hdigits, _⟩
    rw [hdigits b hb] at hother
    cases hother
  case refused =>
    intro e he
    obtain ⟨c', hc', _, rfl⟩ := checkCursor_eq_error_iff.mp he
    obtain rfl := Option.some.inj (hresume.symm.trans hc')
    exact ⟨rfl, rfl, message_cursorTooGreat c⟩
  case statement =>
    intro text max
    rw [statement_eq_cursorTooGreat_iff, and_iff_right hsize, hresume, Option.some.injEq]
    constructor
    · rintro ⟨rfl, hbeyond, rfl⟩
      obtain ⟨hdigits, hvalue⟩ := isBeyondBound_iff.mp hbeyond
      exact ⟨hdigits, hvalue, rfl, rfl⟩
    · rintro ⟨hdigits, hvalue, rfl, rfl⟩
      exact ⟨rfl, isBeyondBound_iff.mpr ⟨hdigits, hvalue⟩, rfl⟩

/-- The greatest number within the bound behind twenty zeros, the number after it, the first that no word of 64 bits holds, and a
text that would be a great number if its last digit were an ASCII digit. -/
theorem bounds_of_cursor_at_ends_of_words :
    let after (c : String) := ((ofTable "items" "id").ofSize 10).startingAfter (some c)
    let bounds (q : PageRequest) : Except Failure Unit := do q.checkPageSize; q.checkCursor
    bounds (after "000000000000000000004294967295") = .ok () ∧
      (after "4294967296").statement = .error (.cursorTooGreat "4294967296" 4294967295) ∧
      (after "00018446744073709551616").statement = .error (.cursorTooGreat "00018446744073709551616" 4294967295) ∧
      bounds (after "1844674407370955161\uff16") = .ok () := by
  intro after bounds
  have hbeyond {c : String} (hne : c ≠ "") (hdigits : (Text.utf8Bytes c).all Text.isDigitByte = true)
      (hvalue : 4294967295 < Nat.ofDigitChars 10 c.toList 0) :
      (after c).statement = .error (.cursorTooGreat c 4294967295) := by
    obtain ⟨_, _, _, hstatement⟩ := bounds_of_cursor (q := after c) (Nat.le_of_ble_eq_true rfl) rfl hne
    exact (hstatement c 4294967295).mpr ⟨List.all_eq_true.mp hdigits, hvalue, rfl, rfl⟩
  obtain ⟨hdigits, _⟩ := bounds_of_cursor (q := after "000000000000000000004294967295") (by decide) rfl (by decide)
  obtain ⟨_, htext, _⟩ := bounds_of_cursor (q := after "1844674407370955161\uff16") (by decide) rfl (by decide)
  exact ⟨(hdigits (List.all_eq_true.mp (by decide))).mpr (by decide), hbeyond (by decide) (by decide) (by decide),
    hbeyond (by decide) (by decide) (by decide), htext (by decide)⟩

end FilterQuery.PageRequest

import FilterQuery.Proofs.Double.Overflow
import FilterQuery.Proofs.Double.Text
import FilterQuery.Proofs.Failure.Steps
import FilterQuery.Proofs.Text.Order
import FilterQuery.Proofs.Text.Utf8
import FilterQuery.Row.Decode

/-!
Cells that hold numbers. Whether a text spells an infinity or NaN is asked twice, once when it is read and again when the
result is not finite. Both questions have one answer for every text that can be read, although the second lets any number of signs
pass, and so no infinity comes out of a numeral. -/

namespace FilterQuery

variable {t : DoubleText} {s : List Char} {text column : String} {x : Double} {kind : CellKind} {raw : Bytes} {v : Value}

/-! ### Names and the numbers they stand for -/

theorem dropWhile_signs {negative : Bool} {sign rest : List Char} (hsign : SignText negative sign)
    (hrest : ∀ c ∈ rest.head?, c ≠ '+' ∧ c ≠ '-') : (sign ++ rest).dropWhile (fun c => c = '+' ∨ c = '-') = rest := by
  have hsigns : ∀ c ∈ sign, decide (c = '+' ∨ c = '-') = true := by cases hsign <;> simp
  exact dropWhile_append_of_head hsigns fun c hc => by simp [hrest c hc]

/-- Of the texts that are written for a number, the names are those that are no numerals. -/
theorem namesNonFinite_iff (h : t.IsWritten s) : namesNonFinite s = true ↔ ∀ n, t ≠ .numeral n := by
  -- behind the one sign there is a letter, a digit or a point, so no more than this sign is dropped
  obtain ⟨negative, sign, rest, hsign, hrest, rfl⟩ := h
  have hnames : namesNonFinite (sign ++ rest) = true ↔ rest.map Char.toLower = nanName ∨
      rest.map Char.toLower ∈ infinityNames := by
    simp only [namesNonFinite, dropWhile_signs hsign hrest.head_not_sign, infinityNames, nanName, decide_eq_true_eq,
      List.mem_cons, List.not_mem_nil, or_false]
    tauto
  rw [hnames, ← spells_nan_iff, ← spells_infinity_iff]
  cases t with
  | numeral n =>
      refine iff_of_false ?_ (fun hother => hother n rfl)
      rintro (hnan | ⟨word, hword, hspells⟩)
      · exact hrest.2.not_spells List.mem_cons_self hnan
      · exact hrest.2.not_spells (List.mem_cons_of_mem _ hword) hspells
  | infinity b =>
      refine iff_of_true (.inr hrest.2) ?_
      rintro n ⟨⟩
  | nan =>
      refine iff_of_true (.inl hrest) ?_
      rintro n ⟨⟩

theorem isFinite_toDouble_of_not_numeral (h : ∀ n, t ≠ .numeral n) : t.toDouble.isFinite = false := by
  cases t with
  | numeral n => exact absurd rfl (h n)
  | infinity negative => exact Double.isFinite_infinity negative
  | nan => decide

/-! ### Numbers in cells -/

theorem readCellNumber_of_numeral {n : Numeral} (h : (DoubleText.numeral n).IsWritten text.toList) :
    readCellNumber text = if |n.value| < overflowBound then .ok n.toDouble else .error .outOfRange := by
  have hname : namesNonFinite text.toList = false := by
    rw [← Bool.not_eq_true, namesNonFinite_iff h]
    exact fun hother => hother n rfl
  rw [readCellNumber, DoubleText.read_eq_some_iff.mpr h]
  simp only [DoubleText.toDouble, hname, Bool.not_false, Bool.and_true, Bool.not_eq_true', ← Bool.not_eq_true,
    n.isFinite_toDouble_iff, ite_not]

theorem readCellNumber_of_name (h : t.IsWritten text.toList) (hother : ∀ n, t ≠ .numeral n) :
    readCellNumber text = .ok t.toDouble := by
  rw [readCellNumber, DoubleText.read_eq_some_iff.mpr h]
  simp only [(namesNonFinite_iff h).mpr hother, Bool.not_true, Bool.and_false, Bool.false_eq_true, if_false]

theorem readCellNumber_of_not_isWritten (h : ∀ t : DoubleText, ¬t.IsWritten text.toList) :
    readCellNumber text = .error (if text.isEmpty then .emptyNumber else .notNumber) := by
  have hnone : DoubleText.read text.toList = none :=
    Option.eq_none_iff_forall_ne_some.mpr fun t ht => h t (DoubleText.read_eq_some_iff.mp ht)
  rw [readCellNumber, hnone]

theorem exists_nonFinite_readCellNumber_iff :
    (∃ x, readCellNumber text = .ok x ∧ x.isFinite = false) ↔ SpellsNonFinite text.toList := by
  rw [DoubleText.spellsNonFinite_iff]
  constructor
  · rintro ⟨x, hx, hfinite⟩
    rcases DoubleText.written_cases text.toList with ⟨n, hn⟩ | hname | hnone
    · rw [readCellNumber_of_numeral hn] at hx
      split_ifs at hx with hbelow
      -- a numeral is let through only where its double is finite
      obtain rfl := Except.ok.inj hx
      rw [n.isFinite_toDouble_iff.mpr hbelow] at hfinite
      cases hfinite
    · exact hname
    · rw [readCellNumber_of_not_isWritten hnone] at hx
      cases hx
  · rintro ⟨t, ht, hother⟩
    exact ⟨_, readCellNumber_of_name ht hother, isFinite_toDouble_of_not_numeral hother⟩

theorem readCellNumber_eq_outOfRange_iff : readCellNumber text = .error .outOfRange ↔
    ∃ n : Numeral, (DoubleText.numeral n).IsWritten text.toList ∧ overflowBound ≤ |n.value| := by
  constructor
  · intro h
    rcases DoubleText.written_cases text.toList with ⟨n, hn⟩ | ⟨t, ht, hother⟩ | hnone
    · rw [readCellNumber_of_numeral hn] at h
      split_ifs at h with hbelow
      exact ⟨n, hn, not_lt.mp hbelow⟩
    · rw [readCellNumber_of_name ht hother] at h
      cases h
    · rw [readCellNumber_of_not_isWritten hnone] at h
      split_ifs at h <;> cases h
  · rintro ⟨n, hn, hbeyond⟩
    rw [readCellNumber_of_numeral hn, if_neg (not_lt.mpr hbeyond)]

/-! ### Cells -/

theorem readCell_utf8Bytes (hkind : kind = .int64 ∨ kind = .double) (column text : String) :
    readCell column kind (Text.utf8Bytes text) = ((readCellNumber text).map .float).mapError (.badCell column text) := by
  rw [readCell, Text.decodeUtf8_eq_ok_iff.mpr rfl]
  obtain rfl | rfl := hkind <;> rfl

/-- A cell that is no text is a failure of its own. -/
theorem exists_readCell_of_not_utf8 (h : ∀ text, raw ≠ Text.utf8Bytes text) (column : String) (kind : CellKind) :
    ∃ fault, readCell column kind raw = .error (.badCell column (Text.decodeLossy raw) (.notUtf8 fault)) := by
  rw [readCell]
  cases hdecode : Text.decodeUtf8 raw with
  | error fault => exact ⟨fault, rfl⟩
  | ok text => exact absurd (Text.decodeUtf8_eq_ok_iff.mp hdecode) (h text)

theorem readCell_eq_float_iff (hkind : kind = .int64 ∨ kind = .double) :
    readCell column kind raw = .ok (.float x) ↔ ∃ text, raw = Text.utf8Bytes text ∧ readCellNumber text = .ok x := by
  by_cases htext : ∃ text, raw = Text.utf8Bytes text
  · obtain ⟨text, rfl⟩ := htext
    rw [readCell_utf8Bytes hkind]
    constructor
    · intro h
      refine ⟨text, rfl, ?_⟩
      cases hread : readCellNumber text <;> rw [hread] at h <;> cases h
      rfl
    · rintro ⟨text', htext, hread⟩
      obtain rfl := Text.utf8Bytes_inj htext
      rw [hread]
      rfl
  · obtain ⟨fault, hfault⟩ := exists_readCell_of_not_utf8 (not_exists.mp htext) column kind
    rw [hfault]
    exact iff_of_false nofun fun ⟨text, heq, _⟩ => htext ⟨text, heq⟩

theorem readCell_eq_outOfRange_iff (hkind : kind = .int64 ∨ kind = .double) :
    readCell column kind raw = .error (.badCell column text .outOfRange) ↔
      raw = Text.utf8Bytes text ∧ readCellNumber text = .error .outOfRange := by
  by_cases htext : ∃ text, raw = Text.utf8Bytes text
  · obtain ⟨text', rfl⟩ := htext
    rw [readCell_utf8Bytes hkind]
    constructor
    · intro h
      cases hread : readCellNumber text' <;> rw [hread] at h <;> cases h
      exact ⟨rfl, hread⟩
    · rintro ⟨htext, hread⟩
      obtain rfl := Text.utf8Bytes_inj htext
      rw [hread]
      rfl
  · obtain ⟨fault, hfault⟩ := exists_readCell_of_not_utf8 (not_exists.mp htext) column kind
    rw [hfault]
    exact iff_of_false nofun fun ⟨heq, _⟩ => htext ⟨text, heq⟩

/-- A cell of numbers holds an infinity or NaN where its text spells one, with one sign at most and in any letter case, and
nowhere else. A numeral that no finite double is near is refused as out of range, and nothing else is. -/
theorem readCell_nonFinite_only_as_spelled (column : String) (raw : Bytes) (hkind : kind = .int64 ∨ kind = .double) :
    ((∃ x, readCell column kind raw = .ok (.float x) ∧ (x.isNaN = true ∨ x.isInfinite = true)) ↔
      ∃ text, raw = Text.utf8Bytes text ∧ SpellsNonFinite text.toList) ∧
    (∀ text, readCell column kind raw = .error (.badCell column text .outOfRange) ↔ raw = Text.utf8Bytes text ∧
      ∃ n : Numeral, (DoubleText.numeral n).IsWritten text.toList ∧ overflowBound ≤ |n.value|) ∧
    CellFault.outOfRange.message = "value out of range" := by
  refine ⟨?_, ?_, rfl⟩
  · simp only [← Double.not_isFinite_iff, readCell_eq_float_iff hkind, ← exists_nonFinite_readCellNumber_iff]
    constructor
    · rintro ⟨x, ⟨text, hraw, hread⟩, hfinite⟩
      exact ⟨text, hraw, x, hread, hfinite⟩
    · rintro ⟨text, hraw, x, hread, hfinite⟩
      exact ⟨x, ⟨text, hraw, hread⟩, hfinite⟩
  · intro text
    rw [readCell_eq_outOfRange_iff hkind, readCellNumber_eq_outOfRange_iff]

/-- One sign before a name in mixed case is read; a second sign is not, and neither is a numeral far beyond the range. -/
theorem readCell_nonFinite_of_signs_and_exponent :
    (∃ x, readCell "ratio" .double [45, 73, 110, 102] = .ok (.float x) ∧ (x.isNaN = true ∨ x.isInfinite = true)) ∧
      readCell "ratio" .double [45, 45, 105, 110, 102] = .error (.badCell "ratio" "--inf" .notNumber) ∧
      readCell "count" .int64 [49, 101, 57, 57, 57] = .error (.badCell "count" "1e999" .outOfRange) := by
  have hname : Text.utf8Bytes "-Inf" = [45, 73, 110, 102] := by decide
  have hnumeral : Text.utf8Bytes "1e999" = [49, 101, 57, 57, 57] := by decide
  have hspells : Spells ['I', 'n', 'f'] ['i', 'n', 'f'] := (spells_iff (by decide)).mpr (by decide)
  let n : Numeral := ⟨false, ['1'], none, some (false, ['9', '9', '9'])⟩
  have hwritten : n.IsUnsigned ['1', 'e', '9', '9', '9'] :=
    ⟨by decide, List.all_eq_true.mp (by decide), _,
      .some (.inl rfl) .none (List.cons_ne_nil '9' ['9', '9']) (List.all_eq_true.mp (by decide)), rfl⟩
  have hbeyond : overflowBound ≤ |n.value| := by
    rw [n.abs_value]
    exact Double.overflowBound_le_of_exponent (by decide) (by decide)
  refine ⟨?_, by rfl, ?_⟩
  · exact (readCell_nonFinite_only_as_spelled "ratio" _ (.inr rfl)).1.mpr
      ⟨"-Inf", hname.symm, true, ['-'], ['I', 'n', 'f'], ['i', 'n', 'f'], .minus, by decide, hspells, rfl⟩
  · exact ((readCell_nonFinite_only_as_spelled "count" _ (.inl rfl)).2.1 "1e999").mpr
      ⟨hnumeral.symm, n, ⟨false, [], _, .none, ⟨rfl, hwritten⟩, rfl⟩, hbeyond⟩

end FilterQuery

import FilterQuery.Keyset.Pages
import FilterQuery.Proofs.Record.Holds
import FilterQuery.Proofs.Sql.Rendering
import FilterQuery.Proofs.Text.Order
import FilterQuery.Proofs.Text.Word

/-!
The condition of a page request. The cursor adds one test that always passes its checks, so a condition can be used where
the filter can. Of the records with a text in the cursor column it selects those that pass the filter and whose text comes
after the cursor. -/

namespace FilterQuery

theorem Record.passes_iff {filter : Option Filter} (h : ∀ f ∈ filter, f.checkAll Sql.checkTest = .ok ()) (r : Record) :
    r.passes filter = true ↔ ∀ f ∈ filter, f.holds r = true := by
  cases filter with
  | none => simp [passes]
  | some f =>
      have hf := Filter.matches?_of_checkAll (h f rfl) r
      simp [passes, hf]

namespace PageRequest

def FilterChecks (q : PageRequest) : Prop :=
  ∀ f ∈ q.filter, f.checkAll Sql.checkTest = .ok ()

theorem filterChecks_of_compile {q : PageRequest} (h : ∀ f ∈ q.filter, ∃ s, Sql.compile f = .ok s) : q.FilterChecks := by
  intro f hf
  exact (Sql.exists_compileWith_iff [] f).mp (h f hf)

theorem isIdentifier_cursorColumn : Sql.isIdentifier cursorColumn = true := by
  decide

theorem checkAll_cursorTest (cursor : String) : (cursorTest cursor).checkAll Sql.checkTest = .ok () := by
  rw [cursorTest, Filter.checkAll_test, Sql.checkTest_eq_ok_iff]
  exact ⟨isIdentifier_cursorColumn, .comparison cursorColumn .gt (.str cursor) rfl (by decide) rfl⟩

theorem checkAll_condition_iff (q : PageRequest) :
    (∀ f ∈ q.condition, f.checkAll Sql.checkTest = .ok ()) ↔ q.FilterChecks := by
  unfold condition FilterChecks
  cases q.resumeAfter with
  | none => rfl
  | some c =>
      cases q.filter with
      | none => simp [checkAll_cursorTest]
      | some f => simp [checkAll_cursorTest, Filter.checkAll_group_eq_ok_iff]

/-! ### What the condition selects -/

/-- The record carries a text of its unique id, which is not empty. -/
def HasId (r : Record) : Prop :=
  ∃ s, s ≠ "" ∧ r.lookup cursorColumn = some (.str s)

theorem HasId.lookup {r : Record} (h : HasId r) : r.lookup cursorColumn = some (.str (idText r)) := by
  obtain ⟨s, _, hs⟩ := h
  rw [idText, hs]

theorem HasId.idText_ne {r : Record} (h : HasId r) : idText r ≠ "" := by
  obtain ⟨s, hne, hs⟩ := h
  rwa [idText, hs]

/-- A text that comes after the cursor of the request, where there is one. -/
def Follows (q : PageRequest) (text : String) : Prop :=
  ∀ c ∈ q.resumeAfter, Text.byteOrder c text = .lt

theorem holds_cursorTest_iff {r : Record} {text : String} (h : r.lookup cursorColumn = some (.str text))
    (cursor : String) : (cursorTest cursor).holds r = true ↔ Text.byteOrder cursor text = .lt := by
  rw [← Std.OrientedCmp.gt_iff_lt, cursorTest, Filter.holds_test]
  simp only [Test.holds, h, Test.arguments, Value.compare?, Operator.accepts]
  cases Text.byteOrder text cursor <;> simp

theorem holds_condition_iff (q : PageRequest) {r : Record} {text : String}
    (h : r.lookup cursorColumn = some (.str text)) :
    (∀ f ∈ q.condition, f.holds r = true) ↔ q.Follows text ∧ ∀ f ∈ q.filter, f.holds r = true := by
  unfold condition Follows
  cases q.resumeAfter with
  | none => simp
  | some c =>
      cases q.filter with
      | none => simp [holds_cursorTest_iff h]
      | some f => simp [holds_cursorTest_iff h, Filter.holds_group_all_iff]

/-- A request selects the records after its cursor that pass its filter. -/
theorem selects_iff {q : PageRequest} (hfilter : q.FilterChecks) {r : Record} (h : HasId r) :
    q.selects r = true ↔ q.Follows (idText r) ∧ r.passes q.filter = true := by
  have hcondition := q.checkAll_condition_iff.mpr hfilter
  rw [selects, Record.passes_iff hcondition, holds_condition_iff q h.lookup, Record.passes_iff hfilter]

/-! ### When there is a statement -/

/-- Whether a cursor of digits alone stands for a number beyond the bound; any other cursor is a text and has none. -/
def isBeyondBound (cursor : String) : Bool :=
  cursor.toList.all Char.isDigit && Limits.pageBound < Nat.ofDigitChars 10 cursor.toList 0

/-- The cursors out of range are the numbers beyond the bound, those that no word holds among them. -/
theorem isOutOfRange_eq {cursor : String} (hne : cursor ≠ "") : isOutOfRange cursor = isBeyondBound cursor := by
  rw [isOutOfRange, isBeyondBound, Text.all_isDigitByte_utf8Bytes]
  cases hdigits : cursor.toList.all Char.isDigit with
  | false => rfl
  | true =>
      have hread (w : UInt64) := Text.readWord?_eq_some_iff (w := w) (List.all_eq_true.mp hdigits) hne
      cases hword : Text.readWord? (Text.utf8Bytes cursor) with
      | none =>
          -- a value within the bound is a word, and would have been read
          have hbeyond : Limits.pageBound < Nat.ofDigitChars 10 cursor.toList 0 := by
            apply Nat.lt_of_not_le
            intro hle
            have hlt : Nat.ofDigitChars 10 cursor.toList 0 < UInt64.size := Nat.lt_of_le_of_lt hle (by decide)
            have hsome := (hread (.ofNatLT _ hlt)).mpr UInt64.toNat_ofNatLT
            rw [hword] at hsome
            cases hsome
          simp [hbeyond]
      | some w =>
          have hvalue := (hread w).mp hword
          rw [Option.any_some, hvalue, Bool.true_and, Bool.true_and, ← decide_not]
          exact decide_eq_decide.mpr Nat.not_le

theorem ne_of_resumeAfter {q : PageRequest} {c : String} (h : q.resumeAfter = some c) : c ≠ "" := by
  simpa using (Option.filter_eq_some_iff.mp h).2

/-- A cursor that is checked is not empty, so it is held to its exact value. -/
theorem checkCursor_eq (q : PageRequest) : q.checkCursor = match q.resumeAfter with
    | none => .ok ()
    | some c => if isBeyondBound c then .error (.cursorTooGreat c Limits.pageBound) else .ok () := by
  rw [checkCursor]
  cases hc : q.resumeAfter with
  | none => rfl
  | some c => simp only [isOutOfRange_eq (ne_of_resumeAfter hc)]

/-- What a request must be to have a statement. -/
structure WellFormed (q : PageRequest) : Prop where
  pageSize : q.pageSize ≤ q.maxPageSize
  cursor : ∀ c ∈ q.resumeAfter, isBeyondBound c = false
  table : Sql.isIdentifier q.table = true
  uniqueId : Sql.isIdentifier q.uniqueId = true
  filter : q.FilterChecks
  word : q.pageSize ≤ Limits.pageBound

theorem resumeAfter_startingAfter (q : PageRequest) {text : String} (hne : text ≠ "") :
    (q.startingAfter (some text)).resumeAfter = some text := by
  simp [startingAfter, resumeAfter, hne]

theorem WellFormed.startingAfter {q : PageRequest} (h : q.WellFormed) {text : String} (htext : isBeyondBound text = false) :
    (q.startingAfter (some text)).WellFormed := by
  refine ⟨h.pageSize, ?_, h.table, h.uniqueId, h.filter, h.word⟩
  intro c hc
  by_cases hne : text = ""
  · subst hne
    cases hc
  · rw [resumeAfter_startingAfter q hne] at hc
    obtain rfl := Option.some.inj hc
    exact htext

end PageRequest

end FilterQuery

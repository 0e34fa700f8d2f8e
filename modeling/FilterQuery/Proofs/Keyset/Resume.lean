import FilterQuery.Proofs.Keyset.Statement

/-!
Resuming after a row. The text of a row's unique id is a cursor, and the request with that cursor selects what comes after the
row. Two kinds of text are set apart: the empty one asks for the first page again, and a number beyond the bound is
refused. -/

namespace FilterQuery.PageRequest

variable {q : PageRequest}

theorem isBeyondBound_empty : isBeyondBound "" = false := by
  decide

/-- Where nothing but the cursor is wrong, the failure names it. -/
theorem statement_of_isBeyondBound (h : (q.startingAfter none).WellFormed) {text : String}
    (htext : isBeyondBound text = true) :
    (q.startingAfter (some text)).statement = .error (.cursorTooGreat text Limits.pageBound) := by
  have hne : text ≠ "" := by
    rintro rfl
    rw [isBeyondBound_empty] at htext
    cases htext
  have hsize : (q.startingAfter (some text)).checkPageSize = .ok () :=
    checkPageSize_eq_ok_iff.mpr h.pageSize
  have hcursor : (q.startingAfter (some text)).checkCursor = .error (.cursorTooGreat text Limits.pageBound) := by
    simp [checkCursor_eq, resumeAfter_startingAfter q hne, htext]
  rw [statement, hsize, hcursor]
  rfl

theorem forall_matches?_iff {filter : Option Filter} (h : ∀ f ∈ filter, f.checkAll Sql.checkTest = .ok ()) (r : Record) :
    (∀ f ∈ filter, f.matches? r = .ok true) ↔ ∀ f ∈ filter, f.holds r = true := by
  cases filter with
  | none => simp
  | some f => simp [Filter.matches?_of_checkAll (h f rfl)]

theorem matches?_condition_iff (hfilter : q.FilterChecks) {text : String} (hne : text ≠ "") {r : Record} {id : String}
    (hid : r.lookup cursorColumn = some (.str id)) :
    (∀ f ∈ (q.startingAfter (some text)).condition, f.matches? r = .ok true) ↔
      Text.byteOrder text id = .lt ∧ ∀ f ∈ q.filter, f.matches? r = .ok true := by
  have hnext : (q.startingAfter (some text)).FilterChecks := hfilter
  rw [forall_matches?_iff (checkAll_condition_iff _ |>.mpr hnext), holds_condition_iff _ hid, Follows,
    resumeAfter_startingAfter q hne, forall_matches?_iff hfilter]
  simp [startingAfter]

/-- Where the first page has a statement, so has the page after any text, but for a number beyond the bound, which is
reported. The condition after a text that is not empty selects the records that the filter does and whose own text comes
later. After the empty text the first page is asked for again. -/
theorem startingAfter_resumes {first : Sql.Statement} (h : (q.startingAfter none).statement = .ok first) (text : String) :
    (isBeyondBound text = false → ∃ s, (q.startingAfter (some text)).statement = .ok s) ∧
      (isBeyondBound text = true →
        (q.startingAfter (some text)).statement = .error (.cursorTooGreat text Limits.pageBound)) ∧
      (text = "" →
        (q.startingAfter (some text)).statement = .ok first ∧ (q.startingAfter (some text)).condition = q.filter) ∧
      (text ≠ "" → ∀ (r : Record) (id : String), r.lookup cursorColumn = some (.str id) →
        ((∀ f ∈ (q.startingAfter (some text)).condition, f.matches? r = .ok true) ↔
          Text.byteOrder text id = .lt ∧ ∀ f ∈ q.filter, f.matches? r = .ok true)) := by
  obtain ⟨hwell, _⟩ := statement_eq_ok_iff.mp h
  refine ⟨?_, statement_of_isBeyondBound hwell, ?_, ?_⟩
  · intro htext
    exact (hwell.startingAfter htext).exists_statement
  · rintro rfl
    exact ⟨h, rfl⟩
  · intro hne r id hid
    exact matches?_condition_iff hwell.filter hne hid

/-- Behind a filter on the cursor column itself the greatest number within the bound is resumed after, and the next one is
refused. Its condition leaves out the row that it was taken from and keeps a later one. -/
theorem startingAfter_last_numbers :
    let q := ((ofTable "items" "id").filteredBy (some (.test ⟨cursorColumn, .ne, some (.str "5")⟩))).ofSize 2
    let great := q.startingAfter (some "4294967296")
    (∃ s, (q.startingAfter (some "4294967295")).statement = .ok s) ∧
      great.statement = .error (.cursorTooGreat "4294967296" 4294967295) ∧
      (q.startingAfter (some "")).condition = q.filter ∧
      (¬∀ f ∈ great.condition, f.matches? [(cursorColumn, .str "4294967296")] = .ok true) ∧
      ∀ f ∈ great.condition, f.matches? [(cursorColumn, .str "43")] = .ok true := by
  have hpage : ∃ first, ((((ofTable "items" "id").filteredBy (some (.test ⟨cursorColumn, .ne, some (.str "5")⟩))).ofSize
      2).startingAfter none).statement = .ok first := ⟨_, rfl⟩
  intro q great
  obtain ⟨first, hfirst⟩ := hpage
  obtain ⟨hwithin, _⟩ := startingAfter_resumes hfirst "4294967295"
  obtain ⟨_, hbeyond, _, hselects⟩ := startingAfter_resumes hfirst "4294967296"
  obtain ⟨_, _, hempty, _⟩ := startingAfter_resumes hfirst ""
  refine ⟨hwithin (by decide), hbeyond (by decide), (hempty rfl).2, ?_, ?_⟩
  · intro hself
    have hbefore := ((hselects (by decide) _ "4294967296" rfl).mp hself).1
    rw [Text.byteOrder_self] at hbefore
    cases hbefore
  · rw [hselects (by decide) _ "43" rfl]
    refine ⟨by decide, ?_⟩
    intro f hf
    obtain rfl := Option.some.inj hf
    rfl

/-- Not every row can be resumed after. The first page has a statement, the page after a row with too great a number has none,
and the condition after a row with the empty text selects that row again. -/
theorem not_resumed_after_great_number_or_empty_text :
    let q := ofTable "items" "id"
    let r : Record := [(cursorColumn, .str "")]
    (∃ s, (q.startingAfter none).statement = .ok s) ∧ (¬∃ s, (q.startingAfter (some "4294967296")).statement = .ok s) ∧
      ¬((∀ f ∈ (q.startingAfter (some "")).condition, f.matches? r = .ok true) ↔
        Text.byteOrder "" "" = .lt ∧ ∀ f ∈ q.filter, f.matches? r = .ok true) := by
  have hfirst : ∃ s, ((ofTable "items" "id").startingAfter none).statement = .ok s := ⟨_, rfl⟩
  have hbeyond : ((ofTable "items" "id").startingAfter (some "4294967296")).statement =
      .error (.cursorTooGreat "4294967296" Limits.pageBound) := rfl
  intro q r
  refine ⟨hfirst, ?_, ?_⟩
  · rintro ⟨s, hs⟩
    rw [hbeyond] at hs
    cases hs
  · intro hiff
    -- without a condition every record is selected, and no text comes after itself
    have hall : ∀ f ∈ (q.startingAfter (some "")).condition, f.matches? r = .ok true := by
      intro f hf
      cases hf
    have hbefore := (hiff.mp hall).1
    rw [Text.byteOrder_self] at hbefore
    cases hbefore

end FilterQuery.PageRequest

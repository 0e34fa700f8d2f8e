import FilterQuery.Keyset.Change
import FilterQuery.Proofs.Keyset.Statement
import FilterQuery.Proofs.Sql.Vocabulary

/-!
What the statement of a request can hold. Its names are those that the request mentions, each of them on the allow-list, and the
rest is the vocabulary of statements and the width of the cast. No other text gets in, whatever the caller puts into the
request. -/

namespace FilterQuery.PageRequest

open Sql

/-- The names in a request: of its table, of its unique id, of the cursor column, and of the fields of its filter. -/
inductive Mentions (q : PageRequest) : String → Prop
  | table : q.Mentions q.table
  | uniqueId : q.Mentions q.uniqueId
  | cursorColumn : q.Mentions cursorColumn
  | field {f : Filter} (hf : q.filter = some f) {t : Test} (ht : t ∈ f.tests) : q.Mentions t.field

variable {q : PageRequest}

theorem mentions_of_mem_condition {f : Filter} (hf : q.condition = some f) {t : Test} (ht : t ∈ f.tests) :
    q.Mentions t.field := by
  have hcursor (c : String) : (cursorTest c).tests = [⟨PageRequest.cursorColumn, .gt, some (.str c)⟩] := rfl
  unfold condition at hf
  split at hf
  · rename_i c g _ hg
    obtain rfl := Option.some.inj hf
    simp only [Filter.tests_group, List.flatMap_cons, List.flatMap_nil, List.append_nil, hcursor, List.mem_append,
      List.mem_singleton] at ht
    rcases ht with rfl | ht
    · exact .cursorColumn
    · exact .field hg ht
  · rename_i c _ _
    obtain rfl := Option.some.inj hf
    rw [hcursor, List.mem_singleton] at ht
    rw [ht]
    exact .cursorColumn
  · exact .field hf ht

theorem WellFormed.clean_castId (h : q.WellFormed) : Clean q.Mentions q.castWidth q.castId :=
  (Clean.quote h.uniqueId .uniqueId).charCast

theorem WellFormed.clean_selectText (h : q.WellFormed) : Clean q.Mentions q.castWidth q.selectText := by
  have hcast := h.clean_castId.between (l := "SELECT *, ".toList) (r := " AS ".toList) (by decide) (by decide)
  have hname := hcast.append (.quote isIdentifier_cursorColumn .cursorColumn) (apart_of_endsApart (endsApart_append (by decide) _))
  have hfrom := hname.append (u := " FROM ".toList) (.phrase (by decide)) (apart_of_startsApart (by decide))
  exact hfrom.append (.quote h.table .table) (apart_of_endsApart (endsApart_append (by decide) _))

theorem WellFormed.clean_whereText (h : q.WellFormed) : Clean q.Mentions q.castWidth q.whereText := by
  unfold whereText
  cases hf : q.condition with
  | none => exact .nil
  | some f =>
      have hcheck := q.checkAll_condition_iff.mpr h.filter f hf
      have htext : Clean q.Mentions q.castWidth (f.text q.columnText) := by
        apply Clean.text hcheck
        intro t ht hfield
        by_cases hname : t.field = cursorColumn
        · rw [hname, columnText_cursorColumn]
          exact h.clean_castId
        · rw [columnText_of_ne q hname]
          exact .quote hfield (mentions_of_mem_condition hf ht)
      exact htext.between (by decide) (by decide)

theorem clean_tailText (q : PageRequest) : Clean q.Mentions q.castWidth q.tailText := by
  have hname : Clean q.Mentions q.castWidth (quote cursorColumn) := .quote isIdentifier_cursorColumn .cursorColumn
  have horder : Clean q.Mentions q.castWidth (' ' :: orderText (quote cursorColumn) false) :=
    hname.between (l := " ORDER BY ".toList) (r := " ASC".toList) (by decide) (by decide)
  unfold tailText
  split
  · rwa [List.append_nil]
  · exact horder.append (.phrase (by decide)) (apart_of_startsApart (by decide))

/-- No text of the caller gets into a statement but as a name on the allow-list. The statement of a request is cut into tokens,
which are the whole of it: names in backticks that the request mentions, words of the vocabulary, and the width of the cast. None
of its characters opens a string or a comment or ends the statement. -/
theorem exists_tokens_of_statement {s : Statement} (h : q.statement = .ok s) :
    ∃ ts, tokens? s.text = some ts ∧ ts.flatMap Token.text = s.text ∧ (∀ t ∈ ts, t.Allowed q.Mentions q.castWidth) ∧
      ∀ c ∈ s.text, isHarmless c = true := by
  obtain ⟨hq, rfl⟩ := statement_eq_ok_iff.mp h
  have hwhere : startsApart q.whereText = true := by
    unfold whereText
    split <;> rfl
  have htail : startsApart q.tailText = true := rfl
  have hbegin := hq.clean_selectText.append hq.clean_whereText (apart_of_startsApart hwhere)
  obtain ⟨ts, hreads, hallowed⟩ := hbegin.append q.clean_tailText (apart_of_startsApart htail)
  have htext := flatMap_text_of_tokens? hreads.tokens_eq
  refine ⟨ts, hreads.tokens_eq, htext, hallowed, ?_⟩
  intro c hc
  rw [← htext] at hc
  obtain ⟨t, ht, hct⟩ := List.mem_flatMap.mp hc
  exact (hallowed t ht).isHarmless hct

/-- Operands and a cursor that would close a name or a string, and a width that no settings file may set. -/
theorem exists_tokens_of_hostile_request :
    let f : Filter := .group .any [.group .all [.test ⟨"str_id", .isIn, some (.list [.str "` OR 1=1 --", .int 7])⟩,
      .test ⟨"gone", .isNotNull, none⟩], .test ⟨"note$", .le, some (.str "'; DROP TABLE items; --")⟩]
    let q := (ofTable "items" "id").changedBy [.filter (some f), .limits ⟨0, 0, 70000, 0, 50⟩,
      .cursor (some "') UNION SELECT /*"), .pageSize 10]
    ∃ s, q.statement = .ok s ∧ ∃ ts, tokens? s.text = some ts ∧ ts.flatMap Token.text = s.text ∧
      (∀ t ∈ ts, t.Allowed q.Mentions q.castWidth) ∧ ∀ c ∈ s.text, isHarmless c = true := by
  refine ⟨?s, ?hs, exists_tokens_of_statement ?hs⟩
  case hs => rfl

end FilterQuery.PageRequest

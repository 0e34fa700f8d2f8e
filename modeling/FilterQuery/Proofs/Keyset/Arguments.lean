import FilterQuery.Proofs.Keyset.Skeleton
import FilterQuery.Proofs.Keyset.UniqueReading
import FilterQuery.Proofs.Sql.Placeholders
import FilterQuery.Proofs.Sql.Vocabulary

/-!
The arguments of a page request. They come from three sources, each of which may be absent: the cursor, the filter and the
number of rows. The text gets its placeholders from the same three, in the same order, so filling them in writes each
argument at its own place; the first placeholder is the cursor's and the last one that of the clause that bounds the
number of rows. -/

namespace FilterQuery.PageRequest

open Sql

variable {q : PageRequest} {write : Value → Text}

def whereWritten (q : PageRequest) (write : Value → Text) : Text :=
  match q.condition with
  | none => []
  | some f => " WHERE (".toList ++ f.written q.columnText write ++ [')']

def tailWritten (q : PageRequest) (write : Value → Text) : Text :=
  let order := ' ' :: orderText (quote cursorColumn) false
  if q.pageSize = 0 then order else order ++ " LIMIT ".toList ++ write (.int (Int64.ofNat q.pageSize))

/-- The statement with every argument at the place where it belongs. -/
def written (q : PageRequest) (write : Value → Text) : Text :=
  q.selectText ++ q.whereWritten write ++ q.tailWritten write

/-! ### Placeholders -/

theorem not_mem_toDigits (width : Nat) : '?' ∉ Nat.toDigits 10 width := by
  intro h
  cases isDigit_of_mem_toDigits h

theorem WellFormed.not_mem_castId (h : q.WellFormed) : '?' ∉ q.castId := by
  have hopen := List.not_mem_append (by decide : '?' ∉ "CAST(".toList) (not_mem_quote h.uniqueId)
  have htype := List.not_mem_append hopen (by decide : '?' ∉ " AS CHAR(".toList)
  have hwidth := List.not_mem_append htype (not_mem_toDigits q.castWidth)
  exact List.not_mem_append hwidth (by decide)

theorem WellFormed.not_mem_selectText (h : q.WellFormed) : '?' ∉ q.selectText := by
  have hselect := List.not_mem_append (by decide : '?' ∉ "SELECT *, ".toList) h.not_mem_castId
  have hname := List.not_mem_append hselect (by decide : '?' ∉ " AS ".toList)
  have hcolumn := List.not_mem_append hname (not_mem_quote isIdentifier_cursorColumn)
  have hfrom := List.not_mem_append hcolumn (by decide : '?' ∉ " FROM ".toList)
  exact List.not_mem_append hfrom (not_mem_quote h.table)

theorem WellFormed.fills_whereText (h : q.WellFormed) : Fills write q.whereText q.whereArgs (q.whereWritten write) := by
  have hcast : ∀ e ∈ [(cursorColumn, String.ofList q.castId)], '?' ∉ e.2.toList := by
    intro e he
    obtain rfl := List.mem_singleton.mp he
    rw [String.toList_ofList]
    exact h.not_mem_castId
  unfold whereText whereArgs whereWritten
  cases hf : q.condition with
  | none => exact .of_not_mem List.not_mem_nil
  | some f =>
      have htext : Fills write (f.text q.columnText) f.arguments (f.written q.columnText write) :=
        f.fills_written (fun _ => not_mem_columnText hcast) (q.checkAll_condition_iff.mpr h.filter f hf)
      exact htext.between (by decide) (by decide)

theorem fills_tailText (q : PageRequest) :
    Fills write q.tailText q.tailArgs (q.tailWritten write) := by
  have horder : '?' ∉ ' ' :: orderText (quote cursorColumn) false := by
    decide
  unfold tailText tailArgs tailWritten
  by_cases hzero : q.pageSize = 0
  · simp only [hzero, if_true, List.append_nil]
    exact .of_not_mem horder
  · have hword : Fills write " LIMIT ".toList [] " LIMIT ".toList := .of_not_mem (by decide)
    simp only [hzero, if_false]
    rw [List.append_assoc]
    exact (Fills.of_not_mem horder).append (hword.append (.placeholder _))

theorem WellFormed.fills (h : q.WellFormed) (write : Value → Text) :
    Fills write (q.selectText ++ q.whereText ++ q.tailText) q.values (q.written write) := by
  rw [← q.whereArgs_append_tailArgs]
  exact ((Fills.of_not_mem h.not_mem_selectText).append h.fills_whereText).append q.fills_tailText

/-! ### The first placeholder and the last -/

theorem text_cursorTest (q : PageRequest) (c : String) :
    (cursorTest c).text q.columnText = q.castId ++ " > ?".toList := by
  have hoperand : ' ' :: Operator.gt.spelling.toList ++ operandText .gt ([Value.str c].map fun _ => placeholder) =
      " > ?".toList := by
    rw [List.map_singleton]
    decide
  rw [cursorTest, Filter.text, Filter.written_test, Test.written, columnText_cursorColumn, List.append_assoc]
  exact congrArg (q.castId ++ ·) hoperand

theorem text_group_pair (column : String → Text) (f g : Filter) : (Filter.group .all [f, g]).text column =
    ['('] ++ f.text column ++ (") AND (".toList ++ g.text column ++ [')']) := by
  rw [Filter.text, Filter.written_group, joinTexts, List.map_cons, List.map_singleton, List.map_cons, List.map_singleton,
    List.intercalate_cons_cons, List.intercalate_singleton]
  simp [Connective.word, Filter.text]

theorem whereText_of_condition {f : Filter} (hf : q.condition = some f) :
    q.whereText = " WHERE (".toList ++ f.text q.columnText ++ [')'] := by
  rw [whereText, hf]

/-- Where there is a cursor, the condition begins with its test. -/
theorem exists_whereText_of_cursor {c : String} (hc : q.resumeAfter = some c) :
    ∃ opening rest, q.whereText = opening ++ q.castId ++ " > ?".toList ++ rest ∧ '?' ∉ opening := by
  cases hf : q.filter with
  | none =>
      have hcondition : q.condition = some (cursorTest c) := by rw [condition, hc, hf]
      refine ⟨" WHERE (".toList, [')'], ?_, by decide⟩
      rw [whereText_of_condition hcondition, text_cursorTest]
      simp only [List.append_assoc]
  | some f =>
      have hcondition : q.condition = some (.group .all [cursorTest c, f]) := by rw [condition, hc, hf]
      refine ⟨" WHERE (".toList ++ ['('], ") AND (".toList ++ f.text q.columnText ++ [')'] ++ [')'], ?_, by decide⟩
      rw [whereText_of_condition hcondition, text_group_pair, text_cursorTest]
      simp only [List.append_assoc]

theorem exists_text_of_cursor {s : Statement} (hs : q.statement = .ok s) {c : String} (hc : q.resumeAfter = some c) :
    ∃ before rest, s.text = before ++ q.castId ++ " > ?".toList ++ rest ∧ '?' ∉ before ++ q.castId := by
  obtain ⟨hwell, rfl⟩ := statement_eq_ok_iff.mp hs
  obtain ⟨opening, rest, hwhere, hopening⟩ := exists_whereText_of_cursor hc
  have hbefore := List.not_mem_append hwell.not_mem_selectText hopening
  refine ⟨q.selectText ++ opening, rest ++ q.tailText, ?_, List.not_mem_append hbefore hwell.not_mem_castId⟩
  rw [hwhere]
  simp only [List.append_assoc]

/-- The end of a statement is the bound of the number of rows, where there is one. -/
theorem limit_suffix_iff (q : PageRequest) (u : Text) : "LIMIT ?".toList <:+ u ++ q.tailText ↔ 0 < q.pageSize := by
  unfold tailText
  by_cases hzero : q.pageSize = 0
  · rw [if_pos hzero, hzero, List.append_nil]
    refine iff_of_false ?_ (Nat.lt_irrefl 0)
    rintro ⟨before, hbefore⟩
    have hlast := congrArg List.getLast? hbefore
    rw [List.getLast?_append, List.getLast?_append] at hlast
    cases hlast
  · rw [if_neg hzero]
    refine iff_of_true ⟨u ++ ' ' :: orderText (quote cursorColumn) false ++ [' '], ?_⟩ (Nat.pos_of_ne_zero hzero)
    simp only [List.append_assoc]
    rfl

theorem count_of_limit {t before : Text} {n : Nat} (ht : t = before ++ "LIMIT ?".toList) (hn : t.count '?' = n) :
    before.count '?' + 1 = n := by
  have hone : "LIMIT ?".toList.count '?' = 1 := by
    decide
  rw [← hn, ht, List.count_append, hone]

theorem getLast?_values (hne : q.pageSize ≠ 0) : q.values.getLast? = some (.int (Int64.ofNat q.pageSize)) := by
  rw [values, if_neg hne, List.getLast?_concat]

/-- The arguments of a statement are the cursor, the values of the filter from left to right, and the number of rows, as
far as the request has them. There are as many placeholders, and filling them in writes every argument at its own place.
The statement ends in the bound of the number of rows exactly where there is one, and that is its last placeholder; the
first one is what the cast of the unique id must be greater than, where there is a cursor. -/
theorem Built.arguments_in_order (h : q.Built) {s : Statement} (hs : q.statement = .ok s) :
    ∃ rows : Int64, rows.toInt = q.pageSize ∧
      s.args = q.resumeAfter.toList.map .str ++ q.filter.toList.flatMap (fun f => f.tests.flatMap Test.arguments) ++
        (if q.pageSize = 0 then [] else [.int rows]) ∧
      s.placeholders = s.args.length ∧ ("LIMIT ?".toList <:+ s.text ↔ 0 < q.pageSize) ∧
      (∀ before, s.text = before ++ "LIMIT ?".toList →
        before.count '?' + 1 = s.args.length ∧ s.args.getLast? = some (.int rows)) ∧
      (∀ c ∈ q.resumeAfter, s.args.head? = some (.str c) ∧
        ∃ before rest, s.text = before ++ q.castId ++ " > ?".toList ++ rest ∧ '?' ∉ before ++ q.castId) ∧
      ∀ write, fill write s.text s.args = q.written write := by
  obtain ⟨hwell, rfl⟩ := statement_eq_ok_iff.mp hs
  rw [q.whereArgs_append_tailArgs] at hs ⊢
  have hfills (write : Value → Text) := hwell.fills write
  have hcount := (hfills fun _ => []).count
  have hlimit := q.limit_suffix_iff (q.selectText ++ q.whereText)
  refine ⟨Int64.ofNat q.pageSize, toInt_ofNat_of_le_pageBound (h.pageSize_le hwell), rfl, hcount, hlimit, ?last, ?first,
    fun write => (hfills write).fill_eq⟩
  case last =>
    intro before hbefore
    have hpos : 0 < q.pageSize := hlimit.mp ⟨before, hbefore.symm⟩
    exact ⟨count_of_limit hbefore hcount, getLast?_values (Nat.ne_of_gt hpos)⟩
  case first =>
    intro c hc
    refine ⟨?_, exists_text_of_cursor hs hc⟩
    rw [values, hc]
    rfl

/-- A cursor, a filter on the cursor column with a question mark in one of its values, and ten rows. -/
theorem arguments_in_order_of_cursor_in_filter :
    let f : Filter := .group .any [.test ⟨"gone", .isNull, none⟩, .test ⟨"str_id", .isIn, some (.list [.int 3, .str "a?"])⟩]
    let q := (ofTable "items" "id").changedBy [.cursor (some "7"), .filter (some f), .pageSize 10]
    ∃ s, q.statement = .ok s ∧ s.placeholders = s.args.length ∧ fill Value.write s.text s.args =
      ["SELECT *, CAST(`id` AS CHAR(50))", " AS `str_id` FROM `items`", " WHERE ((CAST(`id` AS CHAR(50)) > 7)",
        " AND ((`gone` IS NULL) OR (", "CAST(`id` AS CHAR(50)) IN (3, a?)))) ",
        "ORDER BY `str_id` ASC LIMIT 10"].flatMap String.toList := by
  have hall {q : PageRequest} (h : q.Built) (hstatement : ∃ s, q.statement = .ok s) {t : Text}
      (ht : q.written Value.write = t) :
      ∃ s, q.statement = .ok s ∧ s.placeholders = s.args.length ∧ fill Value.write s.text s.args = t := by
    obtain ⟨s, hs⟩ := hstatement
    obtain ⟨_, _, _, hcount, _, _, _, hfill⟩ := h.arguments_in_order hs
    exact ⟨s, hs, hcount, (hfill Value.write).trans ht⟩
  exact hall ⟨_, _, _, rfl⟩ ⟨_, rfl⟩ (by decide +kernel)

end FilterQuery.PageRequest

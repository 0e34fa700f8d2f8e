import FilterQuery.Keyset.Change
import FilterQuery.Proofs.Keyset.Statement
import FilterQuery.Proofs.Sql.UniqueReading

/-!
The request that a statement was made from. The text is read from the left, and each part of it gives back what it was made from
together with what stands behind it: a name ends at its own backtick, the width of the cast at the parenthesis, and the condition
at the parenthesis that was opened for it. The arguments are cut along with the text, so what the condition leaves of them is the
number of rows. -/

namespace FilterQuery

namespace Sql

theorem toDigits_injective : Function.Injective (Nat.toDigits 10) :=
  Function.LeftInverse.injective fun _ => Nat.ofDigitChars_ten_toDigits

theorem takeWhile_isDigit_toDigits (n : Nat) (u : Text) :
    (Nat.toDigits 10 n ++ ')' :: u).takeWhile Char.isDigit = Nat.toDigits 10 n := by
  have hdigits : ∀ c ∈ Nat.toDigits 10 n, c.isDigit = true :=
    fun c hc => Nat.isDigit_of_mem_toDigits (by decide) (by decide) hc
  rw [List.takeWhile_append_of_pos hdigits, List.takeWhile_cons_of_neg (by decide), List.append_nil]

/-- The digits of a number end at the parenthesis. -/
theorem toDigits_append_inj {m n : Nat} {u v : Text}
    (h : Nat.toDigits 10 m ++ ')' :: u = Nat.toDigits 10 n ++ ')' :: v) : m = n ∧ u = v := by
  have hdigits := congrArg (List.takeWhile Char.isDigit) h
  rw [takeWhile_isDigit_toDigits, takeWhile_isDigit_toDigits] at hdigits
  obtain rfl := toDigits_injective hdigits
  exact ⟨rfl, List.tail_eq_of_cons_eq (List.append_cancel_left h)⟩

theorem charCast_quote_append_inj {a b : String} {m n : Nat} {u v : Text}
    (h : charCast (quote a) m ++ u = charCast (quote b) n ++ v) : a = b ∧ m = n ∧ u = v := by
  unfold charCast at h
  simp only [List.append_assoc, List.append_cancel_left_eq] at h
  obtain ⟨hab, hwidth⟩ := quote_append_inj (by simp) (by simp) h
  obtain ⟨hmn, hrest⟩ := toDigits_append_inj (List.append_cancel_left hwidth)
  exact ⟨hab, hmn, List.tail_eq_of_cons_eq hrest⟩

end Sql

open Sql

namespace PageRequest

variable {q q' : PageRequest}

theorem head?_castId_append (q : PageRequest) (u : Text) : (q.castId ++ u).head? = some 'C' := rfl

theorem head?_quote_append (name : String) (u : Text) : (quote name ++ u).head? = some '\x60' := rfl

theorem castId_append_ne_quote_append (q : PageRequest) (name : String) (u v : Text) : q.castId ++ u ≠ quote name ++ v := by
  intro h
  have hhead := congrArg List.head? h
  rw [head?_castId_append, head?_quote_append] at hhead
  cases hhead

/-- What stands for the fields of a condition can be told apart, although for one of them it is no quoted name. -/
theorem legible_columnText (q : PageRequest) : Legible q.columnText where
  append_inj {a b} ha hb {u v} h := by
    by_cases hac : a = cursorColumn <;> by_cases hbc : b = cursorColumn
    · subst hac hbc
      exact ⟨rfl, List.tail_eq_of_cons_eq (List.append_cancel_left h)⟩
    · subst hac
      rw [columnText_cursorColumn, columnText_of_ne q hbc] at h
      exact absurd h (castId_append_ne_quote_append q b _ _)
    · subst hbc
      rw [columnText_cursorColumn, columnText_of_ne q hac] at h
      exact absurd h.symm (castId_append_ne_quote_append q a _ _)
    · rw [columnText_of_ne q hac, columnText_of_ne q hbc] at h
      exact legible_quote.append_inj ha hb h
  ne_open {a} ha {u v} h := by
    by_cases hac : a = cursorColumn
    · subst hac
      have hhead := congrArg List.head? h
      rw [columnText_cursorColumn, head?_castId_append] at hhead
      cases hhead
    · rw [columnText_of_ne q hac] at h
      exact legible_quote.ne_open ha h

theorem selectText_append_inj {u v : Text} (hu : u.head? = some ' ') (hv : v.head? = some ' ')
    (h : q.selectText ++ u = q'.selectText ++ v) :
    q.table = q'.table ∧ q.uniqueId = q'.uniqueId ∧ q.castWidth = q'.castWidth ∧ u = v := by
  unfold selectText at h
  simp only [List.append_assoc, List.append_cancel_left_eq] at h
  obtain ⟨huid, hwidth, hrest⟩ := charCast_quote_append_inj h
  simp only [List.append_cancel_left_eq] at hrest
  obtain ⟨htable, huv⟩ := quote_append_inj (by simp [hu]) (by simp [hv]) hrest
  exact ⟨htable, huid, hwidth, huv⟩

theorem exists_tailText_eq (q : PageRequest) : ∃ u, q.tailText = " ORDER BY ".toList ++ u := by
  exact ⟨_, rfl⟩

theorem head?_whereText_append (q : PageRequest) : (q.whereText ++ q.tailText).head? = some ' ' := by
  obtain ⟨u, hu⟩ := q.exists_tailText_eq
  rw [hu, whereText]
  cases q.condition <;> rfl

/-- Where one request has a condition and the other has none, the texts part at the first word. -/
theorem where_append_ne_tailText (q : PageRequest) (w u : Text) :
    " WHERE (".toList ++ w ++ u ≠ q.tailText := by
  intro h
  obtain ⟨rest, hrest⟩ := q.exists_tailText_eq
  rw [hrest, List.append_assoc] at h
  cases h

/-- The condition is read back with the end of the statement, and takes its own arguments. -/
theorem normal_condition_eq (hcolumn : q.columnText = q'.columnText) (hq : q.FilterChecks) (hq' : q'.FilterChecks)
    (htext : q.whereText ++ q.tailText = q'.whereText ++ q'.tailText)
    (hargs : q.whereArgs ++ q.tailArgs = q'.whereArgs ++ q'.tailArgs) :
    q.condition.map Filter.normal = q'.condition.map Filter.normal ∧ q.tailArgs = q'.tailArgs := by
  have hcheck := q.checkAll_condition_iff.mpr hq
  have hcheck' := q'.checkAll_condition_iff.mpr hq'
  unfold whereText at htext
  unfold whereArgs at hargs
  rw [hcolumn] at htext
  cases hf : q.condition with
  | none =>
      cases hg : q'.condition with
      | none =>
          rw [hf, hg] at hargs
          exact ⟨rfl, hargs⟩
      | some g =>
          rw [hf, hg] at htext
          exact absurd htext.symm (q.where_append_ne_tailText _ _)
  | some f =>
      cases hg : q'.condition with
      | none =>
          rw [hf, hg] at htext
          exact absurd htext (q'.where_append_ne_tailText _ _)
      | some g =>
          rw [hf, hg] at htext hargs
          simp only [List.append_assoc, List.append_cancel_left_eq] at htext
          obtain ⟨hnormal, _, hrest⟩ := f.readsBack q'.legible_columnText (hcheck f hf) g (hcheck' g hg) _ _
            (isEnd_close _) (isEnd_close _) _ _ htext hargs
          exact ⟨congrArg some hnormal, hrest⟩

theorem toInt_ofNat_of_le_pageBound {n : Nat} (h : n ≤ Limits.pageBound) : (Int64.ofNat n).toInt = n := by
  have hlt : n < 2 ^ 63 := Nat.lt_of_le_of_lt h (by decide)
  exact Int64.toInt_ofNat_of_lt hlt

theorem pageSize_eq_of_args (hq : q.pageSize ≤ Limits.pageBound) (hq' : q'.pageSize ≤ Limits.pageBound)
    (h : q.tailArgs = q'.tailArgs) : q.pageSize = q'.pageSize := by
  unfold tailArgs at h
  by_cases hzero : q.pageSize = 0 <;> by_cases hzero' : q'.pageSize = 0
  · rw [hzero, hzero']
  · simp [hzero, hzero'] at h
  · simp [hzero, hzero'] at h
  · simp only [hzero, hzero', if_false, List.cons.injEq, Value.int.injEq, and_true] at h
    have hint := congrArg Int64.toInt h
    rw [toInt_ofNat_of_le_pageBound hq, toInt_ofNat_of_le_pageBound hq'] at hint
    exact Int.ofNat.inj hint

theorem Built.pageSize_le (h : q.Built) (hwell : q.WellFormed) : q.pageSize ≤ Limits.pageBound :=
  Nat.le_trans hwell.pageSize h.maxPageSize_le

/-- Two page requests with the same statement are for the same table, by the same unique id and width, and for the same number of
rows, and their conditions are the same up to normal form. -/
theorem Built.eq_of_statement_eq (hq : q.Built) (hq' : q'.Built) {s s' : Statement} (hs : q.statement = .ok s)
    (hs' : q'.statement = .ok s') (hsql : s.sql = s'.sql) (hargs : s.args = s'.args) :
    q.table = q'.table ∧ q.uniqueId = q'.uniqueId ∧ q.castWidth = q'.castWidth ∧ q.pageSize = q'.pageSize ∧
      q.condition.map Filter.normal = q'.condition.map Filter.normal := by
  obtain ⟨hwell, rfl⟩ := statement_eq_ok_iff.mp hs
  obtain ⟨hwell', rfl⟩ := statement_eq_ok_iff.mp hs'
  have htext : q.selectText ++ q.whereText ++ q.tailText =
      q'.selectText ++ q'.whereText ++ q'.tailText := String.ofList_injective hsql
  rw [List.append_assoc, List.append_assoc] at htext
  obtain ⟨htable, huid, hwidth, hrest⟩ :=
    selectText_append_inj q.head?_whereText_append q'.head?_whereText_append htext
  have hcolumn := columnText_congr (castId_congr huid hwidth)
  obtain ⟨hcondition, htail⟩ := normal_condition_eq hcolumn hwell.filter hwell'.filter hrest hargs
  have hsize := pageSize_eq_of_args (hq.pageSize_le hwell) (hq'.pageSize_le hwell') htail
  exact ⟨htable, huid, hwidth, hsize, hcondition⟩

/-- A request with a cursor, and one without a cursor whose filter has the test of that cursor for its first part. -/
theorem Built.eq_of_cursor_in_filter :
    let f : Filter := .group .any [.test ⟨"str_id", .isIn, some (.int 1)⟩]
    let g : Filter := .group .all [cursorTest "7", .group .all [.test ⟨"str_id", .isIn, some (.list [.int 1])⟩]]
    let q := (ofTable "items" "id").changedBy
      [.limits ⟨0, 0, 20, 0, 50⟩, .filter (some f), .cursor (some "7"), .pageSize 3]
    let q' := (ofTable "items" "id").changedBy
      [.pageSize 3, .cursor (some ""), .filter (some g), .limits ⟨9, 9, 20, 9, 3⟩]
    ∃ s s', q.statement = .ok s ∧ q'.statement = .ok s' ∧ s.sql = s'.sql ∧ s.args = s'.args ∧
      q.table = q'.table ∧ q.uniqueId = q'.uniqueId ∧ q.castWidth = q'.castWidth ∧ q.pageSize = q'.pageSize ∧
      q.condition.map Filter.normal = q'.condition.map Filter.normal :=
  ⟨_, _, rfl, rfl, rfl, rfl, eq_of_statement_eq ⟨_, _, _, rfl⟩ ⟨_, _, _, rfl⟩ rfl rfl rfl rfl⟩

end PageRequest

end FilterQuery

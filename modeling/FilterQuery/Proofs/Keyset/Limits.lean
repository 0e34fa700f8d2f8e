import FilterQuery.Proofs.Keyset.Arguments
import FilterQuery.Proofs.Keyset.Refusal
import FilterQuery.Proofs.Settings.Limits
import FilterQuery.Settings.File

/-!
Requests under limits that make sense. The number of rows is looked at in one place only, so a failure whose root is its
length comes from there, and limits that were judged when they were set leave nothing to clamp. -/

namespace FilterQuery

open Sql

namespace PageRequest

variable {q : PageRequest}

theorem Refusal.lt_of_root_eq {cap size max : Nat} {e : Failure} (h : q.Refusal cap e)
    (hroot : e.root = .pageTooLong size max) : cap < q.pageSize := by
  cases h with
  | pageSize h => exact h
  | cursor | table | uniqueId => cases hroot
  | filter _ _ _ _ h => exact absurd hroot (root_ne_of_compile h rfl)
  | filterAfterCursor _ _ _ _ h => exact absurd hroot (root_ne_of_compile h rfl)

theorem statement_eq_pageTooLong_iff {n cap : Nat} (hn : q.pageSize = n) (hcap : q.maxPageSize = cap)
    (hbound : cap ≤ Limits.pageBound) : q.statement = .error (.pageTooLong n cap) ↔ cap < n := by
  subst hn hcap
  rw [statement_eq_error_iff hbound]
  exact ⟨fun h => h.lt_of_root_eq rfl, .pageSize⟩

theorem castId_isInfix_text {s : Statement} (hs : q.statement = .ok s) {c : String} (hc : q.resumeAfter = some c) :
    q.castId ++ " > ?".toList <:+: s.text := by
  obtain ⟨before, rest, htext, _⟩ := exists_text_of_cursor hs hc
  refine ⟨before, rest, ?_⟩
  rw [htext]
  simp only [List.append_assoc]

theorem castId_isPrefix_text {s : Statement} (hs : q.statement = .ok s) : "SELECT *, ".toList ++ q.castId <+: s.text := by
  obtain ⟨_, rfl⟩ := statement_eq_ok_iff.mp hs
  unfold selectText
  simp only [List.append_assoc]
  exact (List.prefix_append_right_inj _).mpr (List.prefix_append _ _)

theorem tail_isSuffix_text {s : Statement} (hs : q.statement = .ok s) : q.tailText <:+ s.text := by
  obtain ⟨_, rfl⟩ := statement_eq_ok_iff.mp hs
  exact List.suffix_append _ _

theorem args_eq_values {s : Statement} (hs : q.statement = .ok s) : s.args = q.values := by
  obtain ⟨_, rfl⟩ := statement_eq_ok_iff.mp hs
  exact q.whereArgs_append_tailArgs

theorem tailText_of_zero (hzero : q.pageSize = 0) : q.tailText = " ORDER BY `str_id` ASC".toList := by
  rw [tailText, if_pos hzero]
  decide

theorem tailText_of_ne_zero (hne : q.pageSize ≠ 0) :
    q.tailText = " ORDER BY `str_id` ASC LIMIT ?".toList := by
  have hlimit : ' ' :: orderText (quote cursorColumn) false ++ ' ' :: limitText =
      " ORDER BY `str_id` ASC LIMIT ?".toList := by
    decide
  rw [tailText, if_neg hne]
  exact hlimit

/-- A statement ends in the number of rows and binds it last, or has neither. -/
theorem rows_of_statement {s : Statement} (hs : q.statement = .ok s) :
    if q.pageSize = 0 then " ORDER BY `str_id` ASC".toList <:+ s.text ∧ s.args = (q.ofSize 0).values
    else " ORDER BY `str_id` ASC LIMIT ?".toList <:+ s.text ∧ s.args.getLast? = some (.int (Int64.ofNat q.pageSize)) := by
  have hargs := args_eq_values hs
  have htail := tail_isSuffix_text hs
  by_cases hzero : q.pageSize = 0
  · rw [tailText_of_zero hzero] at htail
    rw [if_pos hzero, hargs]
    refine ⟨htail, ?_⟩
    rw [values, hzero]
    rfl
  · rw [tailText_of_ne_zero hzero] at htail
    rw [if_neg hzero, hargs]
    exact ⟨htail, getLast?_values hzero⟩

theorem maxPageSize_under {l : Limits} (h : l.Consistent) (q : PageRequest) : (q.under l).maxPageSize = l.maxPageSize :=
  Nat.min_eq_left h.maxPageSize

/-- Limits that resolve are limits that every request can run under. The width of its cast is theirs and within its
range. A request for the default number of rows is never refused for that number: it has a statement unless its own
cursor, names or filter are wrong. The statement binds the number last, behind the word that bounds the rows, or where it
is zero has neither. Any other number is refused exactly when it is above the greatest one, which is the same in the
request as in the limits. -/
theorem runs_under_resolved_limits {cli : LimitSettings} {file : SettingsFile} {l : Limits}
    (h : cli.atop file.limits = .ok l) (q : PageRequest) :
    let request (n : Nat) := (q.ofSize n).under l
    let cast := charCast (quote q.uniqueId) l.castWidth
    1 ≤ l.castWidth ∧ l.castWidth ≤ 255 ∧
      (∀ e, (request l.defaultPageSize).statement = .error e → ∀ size max, e.root ≠ .pageTooLong size max) ∧
      ((∃ s, (request l.defaultPageSize).statement = .ok s) ↔
        (∀ c ∈ q.resumeAfter, isBeyondBound c = false) ∧ q.HasNames ∧ ∀ f ∈ q.filter, ∃ s, Sql.compile f = .ok s) ∧
      (∀ s, (request l.defaultPageSize).statement = .ok s →
        "SELECT *, ".toList ++ cast <+: s.text ∧ (∀ c ∈ q.resumeAfter, cast ++ " > ?".toList <:+: s.text) ∧
          ∃ rows : Int64, rows.toInt = l.defaultPageSize ∧
            if l.defaultPageSize = 0 then " ORDER BY `str_id` ASC".toList <:+ s.text ∧ s.args = (q.ofSize 0).values
            else " ORDER BY `str_id` ASC LIMIT ?".toList <:+ s.text ∧ s.args.getLast? = some (.int rows)) ∧
      ∀ n, (request n).maxPageSize = l.maxPageSize ∧ ((request n).checkPageSize = .ok () ↔ n ≤ l.maxPageSize) ∧
        ((request n).statement = .error (.pageTooLong n l.maxPageSize) ↔ l.maxPageSize < n) := by
  intro request cast
  obtain ⟨_, hl⟩ := LimitSettings.atop_eq_ok_iff.mp h
  have hcap (n : Nat) : (request n).maxPageSize = l.maxPageSize := maxPageSize_under hl (q.ofSize n)
  have hbound (n : Nat) : (request n).maxPageSize ≤ Limits.pageBound := Nat.min_le_right _ _
  refine ⟨hl.castWidth_pos, hl.castWidth_le, ?refused, ?assembles, ?assembled, ?requested⟩
  case refused =>
    intro e he size max hroot
    have hlt := ((statement_eq_error_iff (hbound _)).mp he).lt_of_root_eq hroot
    rw [hcap] at hlt
    exact Nat.not_lt.mpr hl.defaultPageSize hlt
  case assembles =>
    have hsize : (request l.defaultPageSize).pageSize ≤ (request l.defaultPageSize).maxPageSize := by
      rw [hcap]
      exact hl.defaultPageSize
    rw [exists_statement_iff, wellFormed_iff_inBounds (hbound _)]
    constructor
    · rintro ⟨hbounds, ⟨htable, huid⟩, hfilter⟩
      exact ⟨hbounds.cursor, ⟨htable, huid⟩, hfilter⟩
    · rintro ⟨hcursor, ⟨htable, huid⟩, hfilter⟩
      exact ⟨⟨hsize, hcursor⟩, ⟨htable, huid⟩, hfilter⟩
  case assembled =>
    intro s hs
    have hrows : l.defaultPageSize ≤ Limits.pageBound := Nat.le_trans hl.defaultPageSize hl.maxPageSize
    have hcast : (request l.defaultPageSize).castId = cast := rfl
    rw [← hcast]
    exact ⟨castId_isPrefix_text hs, fun c hc => castId_isInfix_text hs hc, Int64.ofNat l.defaultPageSize,
      toInt_ofNat_of_le_pageBound hrows, rows_of_statement hs⟩
  case requested =>
    intro n
    refine ⟨hcap n, ?_, statement_eq_pageTooLong_iff rfl (hcap n) hl.maxPageSize⟩
    rw [checkPageSize_eq_ok_iff, hcap]
    exact Iff.rfl

/-- The command line sets a width and hides one that is out of range in the file, and the file sets both numbers of rows. -/
theorem runs_under_limits_of_two_layers :
    let cli : LimitSettings := ⟨none, none, some 64, none, none⟩
    let file : SettingsFile := ⟨⟨none, some 8, some 0, some 500, some 500⟩, []⟩
    let q := (ofTable "items" "id").startingAfter (some "7")
    ∃ l s, cli.atop file.limits = .ok l ∧ ((q.ofSize l.defaultPageSize).under l).statement = .ok s ∧
      "SELECT *, CAST(`id` AS CHAR(64))".toList <+: s.text ∧ s.args.getLast? = some (.int 500) ∧
      ((q.ofSize 501).under l).statement = .error (.pageTooLong 501 500) := by
  have hassembles : ∃ s, ((((ofTable "items" "id").startingAfter (some "7")).ofSize 500).under
      ⟨65536, 8, 64, 500, 500⟩).statement = .ok s := ⟨_, rfl⟩
  obtain ⟨s, hs⟩ := hassembles
  intro cli file q
  have hl : cli.atop file.limits = .ok ⟨65536, 8, 64, 500, 500⟩ := rfl
  obtain ⟨_, _, _, _, hassembled, hrequested⟩ := runs_under_resolved_limits hl q
  obtain ⟨hselect, _, rows, hrows, htail⟩ := hassembled s hs
  rw [if_neg (by decide)] at htail
  obtain rfl : rows = 500 := Int64.toInt_inj.mp hrows
  have hcast : "SELECT *, CAST(`id` AS CHAR(64))".toList = "SELECT *, ".toList ++ charCast (quote "id") 64 := by
    decide
  refine ⟨_, s, hl, hs, ?_, htail.2, (hrequested 501).2.2.mpr (by decide)⟩
  rw [hcast]
  exact hselect

end PageRequest

end FilterQuery

import FilterQuery.Proofs.Keyset.Limits

/-!
Runs of changes. A request is made of what was set last and does not depend on how it came to be, so a bound on the rows holds wherever
in a run a statement is made. -/

namespace FilterQuery.PageRequest

theorem getLast?_args_of_limit {q : PageRequest} {s : Sql.Statement} (hs : q.statement = .ok s)
    (hlimit : "LIMIT ?".toList <:+ s.text) : 0 < q.pageSize ∧ s.args.getLast? = some (.int (Int64.ofNat q.pageSize)) := by
  rw [args_eq_values hs]
  obtain ⟨_, rfl⟩ := statement_eq_ok_iff.mp hs
  have hpos := (q.limit_suffix_iff _).mp hlimit
  exact ⟨hpos, getLast?_values (Nat.ne_of_gt hpos)⟩

/-- Where a statement bounds its rows, the bound is a positive number within the greatest page size. -/
theorem Built.exists_rows_of_limit {q : PageRequest} (h : q.Built) {s : Sql.Statement} (hs : q.statement = .ok s)
    (hlimit : "LIMIT ?".toList <:+ s.text) :
    ∃ rows : Int64, s.args.getLast? = some (.int rows) ∧ 1 ≤ rows.toInt ∧ rows.toInt ≤ q.maxPageSize := by
  obtain ⟨hpos, hlast⟩ := getLast?_args_of_limit hs hlimit
  have hwell : q.WellFormed := (statement_eq_ok_iff.mp hs).1
  refine ⟨Int64.ofNat q.pageSize, hlast, ?_⟩
  rw [toInt_ofNat_of_le_pageBound (h.pageSize_le hwell)]
  exact ⟨Int.ofNat_le.mpr hpos, Int.ofNat_le.mpr hwell.pageSize⟩

/-- Whatever the order of the changes and whatever came before them, the last of each kind decide: made in any order on a fresh
request they make the same request, so the same condition and the same statement. Wherever a run of changes stops, the request is
that for what was set last; the table and the unique id are those that it began with, and the greatest page size is that of the limits
that were set last, but never beyond its own bound. A statement made there that bounds its rows does so by at least one and by no more
than that. -/
theorem last_of_each_kind_decides (table uniqueId : String) (changes : List Change) :
    let fresh := ofTable table uniqueId
    (∃ last, Change.LastOfEach last changes) ∧
      (∀ last, Change.LastOfEach last changes → fresh.changedBy last = fresh.changedBy changes) ∧
      ∀ earlier, earlier <+: changes →
        let q := fresh.changedBy earlier
        let cap := min (lastLimits earlier).maxPageSize Limits.pageBound
        q = ofLast table uniqueId earlier ∧ q.table = table ∧ q.uniqueId = uniqueId ∧ q.maxPageSize = cap ∧
          ∀ s, q.statement = .ok s → "LIMIT ?".toList <:+ s.text →
            ∃ rows : Int64, s.args.getLast? = some (.int rows) ∧ 1 ≤ rows.toInt ∧ rows.toInt ≤ cap := by
  intro fresh
  refine ⟨⟨_, Change.lastOfEach_standing changes⟩, fun last h => fresh.changedBy_lastOfEach h, ?_⟩
  intro earlier _ q cap
  have hq : q = ofLast table uniqueId earlier := changedBy_ofTable table uniqueId earlier
  have hcap : q.maxPageSize = cap := congrArg PageRequest.maxPageSize hq
  refine ⟨hq, congrArg PageRequest.table hq, congrArg PageRequest.uniqueId hq, hcap, ?_⟩
  intro s hs hlimit
  have hbuilt : q.Built := ⟨table, uniqueId, earlier, rfl⟩
  rw [← hcap]
  exact hbuilt.exists_rows_of_limit hs hlimit

/-- The page size is set before the limits that it keeps to, and again after them; the filter is taken away. The limits in between are
too narrow for the first page size, so there the run has no statement. -/
theorem last_of_each_kind_decides_after_narrow_limits :
    let f : Filter := .test ⟨"gone", .isNull, none⟩
    let earlier : List Change := [.cursor (some "7"), .filter (some f), .pageSize 600, .limits ⟨0, 0, 20, 0, 500⟩]
    let changes : List Change := earlier ++ [.cursor (some "8"), .filter none, .pageSize 500]
    let last : List Change := [.pageSize 500, .filter none, .cursor (some "8"), .limits ⟨0, 0, 20, 0, 500⟩]
    let fresh := ofTable "items" "id"
    Change.LastOfEach last changes ∧ earlier <+: changes ∧ fresh.changedBy last = fresh.changedBy changes ∧
      (fresh.changedBy earlier).statement = .error (.pageTooLong 600 500) ∧
      ∃ s rows, (fresh.changedBy changes).statement = .ok s ∧ "LIMIT ?".toList <:+ s.text ∧
        s.args.getLast? = some (.int rows) ∧ 1 ≤ rows.toInt ∧ rows.toInt ≤ 500 := by
  intro f earlier changes last fresh
  have hlast : Change.LastOfEach last changes :=
    (Change.lastOfEach_standing changes).of_perm (List.reverse_perm _).symm
  obtain ⟨_, hdecide, hpoints⟩ := last_of_each_kind_decides "items" "id" changes
  obtain ⟨_, _, _, _, hrows⟩ := hpoints changes List.prefix_rfl
  have hassembles : ∃ s, (fresh.changedBy changes).statement = .ok s := by
    subst fresh changes earlier f
    exact ⟨_, rfl⟩
  obtain ⟨s, hs⟩ := hassembles
  have hlimit : "LIMIT ?".toList <:+ s.text := by
    obtain ⟨_, rfl⟩ := statement_eq_ok_iff.mp hs
    exact (limit_suffix_iff _ _).mpr (by decide)
  obtain ⟨rows, hargs, hpos, hle⟩ := hrows s hs hlimit
  exact ⟨hlast, List.prefix_append _ _, hdecide last hlast, rfl, s, rows, hs, hlimit, hargs, hpos, hle⟩

end FilterQuery.PageRequest

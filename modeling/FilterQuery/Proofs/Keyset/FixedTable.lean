import FilterQuery.Proofs.Keyset.Run
import FilterQuery.Proofs.Keyset.Statement

/-!
Runs over a table that does not change. Each page takes its rows off the front of what is selected, in order, and leaves
the rest to the next request, so the pages put together are all of it. -/

namespace FilterQuery.PageRequest

variable {q : PageRequest} {table : List Record}

theorem nodup_of_pairwise_precedes {rows : List Record} (h : rows.Pairwise Precedes) : rows.Nodup := by
  apply h.imp
  intro r s hrs heq
  exact hrs.idText_ne (congrArg idText heq)

/-- On the same table the next request selects what the page has left out. -/
theorem ranked_next (hfilter : q.FilterChecks) (htable : Keyed table) (hsize : q.pageSize ≠ 0) :
    (q.next (q.page table)).ranked table = (q.ranked table).drop q.pageSize := by
  have hnext := hfilter.next (q.page table)
  have hsorted := ranked_pairwise (q := q.next (q.page table)) htable
  have hparts := ranked_pairwise (q := q) htable
  rw [← page_append_drop hsize, List.pairwise_append] at hparts
  obtain ⟨_, hdrop, hacross⟩ := hparts
  -- both are strictly ordered, so it is enough that they have the same members
  apply List.Perm.eq_of_pairwise (fun r s _ _ hrs hsr => absurd hsr hrs.not_symm) hsorted hdrop
  rw [List.perm_ext_iff_of_nodup (nodup_of_pairwise_precedes hsorted) (nodup_of_pairwise_precedes hdrop)]
  intro r
  constructor
  · intro hr
    obtain ⟨hmem, hselects⟩ := mem_ranked_iff.mp hr
    obtain ⟨hfollows, hpasses⟩ := (selects_iff hnext (htable.hasId r hmem)).mp hselects
    rw [next_filter] at hpasses
    have hbefore := follows_of_follows_next hfilter htable hfollows
    have hranked := mem_ranked_iff.mpr ⟨hmem, (selects_iff hfilter (htable.hasId r hmem)).mpr ⟨hbefore, hpasses⟩⟩
    rw [← page_append_drop hsize, List.mem_append] at hranked
    obtain hpage | hdrop := hranked
    · have hself : Precedes r r := precedes_of_follows_next htable hpage hfollows
      exact absurd hself hself.not_symm
    · exact hdrop
  · intro hr
    obtain ⟨hmem, hselects⟩ := mem_ranked_iff.mp (List.mem_of_mem_drop hr)
    obtain ⟨hfollows, hpasses⟩ := (selects_iff hfilter (htable.hasId r hmem)).mp hselects
    obtain hpage | hafter := mem_page_or_follows_next hfilter htable hsize hmem hfollows hpasses
    · have hself : Precedes r r := hacross r hpage r hr
      exact absurd hself hself.not_symm
    · apply mem_ranked_iff.mpr
      refine ⟨hmem, (selects_iff hnext (htable.hasId r hmem)).mpr ⟨hafter, ?_⟩⟩
      rwa [next_filter]

/-- One page of the given size is needed for the first rows, and the others for what is left. -/
theorem ceil_div_eq_succ {rows size : Nat} (hrows : rows ≠ 0) (hsize : size ≠ 0) :
    (rows + size - 1) / size = (rows - size + size - 1) / size + 1 := by
  have hfirst : (rows + size - 1) / size = (rows - 1) / size + 1 := by
    rw [← Nat.add_div_right _ (Nat.pos_of_ne_zero hsize)]
    congr 1
    omega
  rw [hfirst]
  congr 1
  by_cases hfull : size ≤ rows
  · rw [Nat.sub_add_cancel hfull]
  · rw [Nat.div_eq_of_lt (by omega), Nat.div_eq_of_lt (by omega)]

theorem fetches_replicate (hfilter : q.FilterChecks) (htable : Keyed table) (hsize : q.pageSize ≠ 0) {states : Nat}
    (hstates : ((q.ranked table).length + q.pageSize - 1) / q.pageSize + 1 ≤ states) :
    (q.fetches (List.replicate states table)).length =
        ((q.ranked table).length + q.pageSize - 1) / q.pageSize + 1 ∧
      (q.fetches (List.replicate states table)).flatMap Fetch.rows = q.ranked table ∧
      ∃ x, (q.fetches (List.replicate states table)).getLast? = some x ∧ x.rows = [] := by
  induction states generalizing q with
  | zero => exact absurd hstates (Nat.not_succ_le_zero _)
  | succ states ih =>
      rw [List.replicate_succ]
      by_cases hpage : q.page table = []
      · rw [fetches_of_page_eq_nil hpage, ranked_eq_nil_of_page_eq_nil hsize hpage]
        refine ⟨?_, rfl, ⟨q, table, []⟩, rfl, rfl⟩
        rw [List.length_nil, Nat.div_eq_of_lt (by omega), List.length_singleton]
      · have hrows : (q.ranked table).length ≠ 0 := by
          intro hnil
          apply hpage
          rw [page_eq_take hsize, List.length_eq_zero_iff.mp hnil, List.take_nil]
        have hlength : ((q.next (q.page table)).ranked table).length = (q.ranked table).length - q.pageSize := by
          rw [ranked_next hfilter htable hsize, List.length_drop]
        -- this page is one of those that the rows fill, and the run over the rest has the others
        rw [ceil_div_eq_succ hrows hsize] at hstates
        obtain ⟨hcount, hall, x, hlast, hempty⟩ := ih (q := q.next (q.page table)) (hfilter.next _)
          (by rwa [next_pageSize]) (by rw [next_pageSize, hlength]; omega)
        rw [fetches_of_page_ne_nil hpage]
        refine ⟨?_, ?_, x, ?_, hempty⟩
        · rw [List.length_cons, hcount, next_pageSize, hlength, ceil_div_eq_succ hrows hsize]
        · rw [List.flatMap_cons, hall, ranked_next hfilter htable hsize, page_append_drop hsize]
        · rw [List.getLast?_cons, hlast]
          rfl

theorem wellFormed_of_mem_fetches (hq : q.WellFormed) {states : List (List Record)}
    (hbound : ∀ table ∈ states, ∀ r ∈ table, isBeyondBound (idText r) = false) {x : Fetch}
    (hx : x ∈ q.fetches states) : x.request.WellFormed := by
  obtain ⟨_, _, hrequest | ⟨table, htable, r, hr, hrequest⟩⟩ := of_mem_fetches hx
  · rwa [hrequest]
  · rw [hrequest]
    exact hq.startingAfter (hbound table htable r hr)

/-- Over one table every request of a run has a statement. The run stops at the first empty page, which comes after as
many pages as the rows fill, and the pages hold each record that passes the filter once, in strictly increasing order. -/
theorem fetches_of_fixed_table {name uniqueId : String} (hname : Sql.isIdentifier name = true)
    (huid : Sql.isIdentifier uniqueId = true) {filter : Option Filter}
    (hfilter : ∀ f ∈ filter, ∃ s, Sql.compile f = .ok s) {n : Nat} (hn : 1 ≤ n) (hbound : n ≤ Limits.pageBound)
    {table : List Record} (htable : Keyed table) (hcursor : ∀ r ∈ table, isBeyondBound (idText r) = false)
    {states : Nat} (hstates : ((table.filter (Record.passes filter)).length + n - 1) / n + 1 ≤ states) :
    let run := (((ofTable name uniqueId).filteredBy filter).ofSize n).fetches (List.replicate states table)
    (∀ x ∈ run, ∃ s, x.request.statement = .ok s) ∧
      run.length = ((table.filter (Record.passes filter)).length + n - 1) / n + 1 ∧
      (∃ x, run.getLast? = some x ∧ x.rows = []) ∧
      (run.flatMap Fetch.rows).Perm (table.filter (Record.passes filter)) ∧
      (run.flatMap Fetch.rows).Pairwise (fun r s => Text.byteOrder (idText r) (idText s) = .lt) := by
  intro run
  have hchecks : (((ofTable name uniqueId).filteredBy filter).ofSize n).FilterChecks :=
    filterChecks_of_compile hfilter
  have hwell : (((ofTable name uniqueId).filteredBy filter).ofSize n).WellFormed := by
    refine ⟨hbound, ?_, hname, huid, hchecks, hbound⟩
    intro c hc
    cases hc
  have hperm : ((((ofTable name uniqueId).filteredBy filter).ofSize n).ranked table).Perm
      (table.filter (Record.passes filter)) :=
    ranked_perm _ table
  rw [← hperm.length_eq] at hstates ⊢
  obtain ⟨hcount, hall, hlast⟩ := fetches_replicate hchecks htable (Nat.ne_of_gt hn) hstates
  refine ⟨?_, hcount, hlast, ?_, ?_⟩
  · intro x hx
    apply WellFormed.exists_statement
    apply wellFormed_of_mem_fetches hwell _ hx
    intro state hstate
    rwa [List.eq_of_mem_replicate hstate]
  · rw [hall]
    exact hperm
  · rw [hall]
    exact ranked_pairwise htable

/-- Three of four records in pages of two, by a filter on the cursor column itself: two pages and the empty one. -/
theorem fetches_of_four_records :
    let filter : Option Filter := some (.test ⟨cursorColumn, .ne, some (.str "b")⟩)
    let table : List Record :=
      [[("str_id", .str "d")], [("str_id", .str "b")], [("str_id", .str "a")], [("str_id", .str "c")]]
    let run := (((ofTable "items" "id").filteredBy filter).ofSize 2).fetches (List.replicate 4 table)
    (∀ x ∈ run, ∃ s, x.request.statement = .ok s) ∧ run.length = 3 ∧ (∃ x, run.getLast? = some x ∧ x.rows = []) ∧
      (run.flatMap Fetch.rows).Perm [[("str_id", .str "d")], [("str_id", .str "a")], [("str_id", .str "c")]] ∧
      (run.flatMap Fetch.rows).Pairwise (fun r s => Text.byteOrder (idText r) (idText s) = .lt) := by
  intro filter table run
  have hfilter : ∀ f ∈ filter, ∃ s, Sql.compile f = .ok s := by
    intro f hf
    obtain rfl := Option.some.inj hf
    exact ⟨_, rfl⟩
  have htable : Keyed table := by
    refine ⟨?_, by decide⟩
    simp [table, HasId, cursorColumn]
  have hcursor : ∀ r ∈ table, isBeyondBound (idText r) = false := by
    decide
  have hmatches : table.filter (Record.passes filter) =
      [[("str_id", .str "d")], [("str_id", .str "a")], [("str_id", .str "c")]] := by
    rfl
  have hstates : ((table.filter (Record.passes filter)).length + 2 - 1) / 2 + 1 ≤ 4 := by
    rw [hmatches]
    decide
  have hname : Sql.isIdentifier "items" = true := by
    decide
  have huid : Sql.isIdentifier "id" = true := by
    decide
  have hrun := fetches_of_fixed_table hname huid hfilter (by decide) (by decide) htable hcursor hstates
  rwa [hmatches] at hrun

end FilterQuery.PageRequest

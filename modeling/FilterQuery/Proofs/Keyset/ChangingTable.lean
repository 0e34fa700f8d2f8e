import FilterQuery.Proofs.Keyset.Run

/-!
Runs over a table that changes between the fetches. The cursor only grows, which keeps the rows apart. A record that is
there all the time follows the cursor until it is on a page, because a page leaves out only what follows it. -/

namespace FilterQuery.PageRequest

variable {q : PageRequest} {states : List (List Record)}

section Run

variable (hfilter : q.FilterChecks) (hstates : ∀ table ∈ states, Keyed table)
include hfilter hstates

theorem passes_of_mem_fetches {x : Fetch} (hx : x ∈ q.fetches states) {r : Record} (hr : r ∈ x.rows) :
    r ∈ x.table ∧ r.passes q.filter = true := by
  obtain ⟨htable, hrows, _⟩ := of_mem_fetches hx
  have hsame := filter_of_mem_fetches hx
  have hchecks : x.request.FilterChecks := by
    rwa [FilterChecks, hsame]
  rw [hrows] at hr
  obtain ⟨_, hpasses⟩ := follows_and_passes_of_mem_page hchecks (hstates _ htable) hr
  rw [hsame] at hpasses
  exact ⟨mem_table_of_mem_page hr, hpasses⟩

theorem follows_of_mem_rows {r : Record} (hr : r ∈ (q.fetches states).flatMap Fetch.rows) : q.Follows (idText r) := by
  induction states generalizing q with
  | nil => cases hr
  | cons table states ih =>
      obtain ⟨htable, hlater⟩ := List.forall_mem_cons.mp hstates
      by_cases hpage : q.page table = []
      · rw [fetches_of_page_eq_nil hpage] at hr
        cases hr
      · rw [fetches_of_page_ne_nil hpage, List.flatMap_cons, List.mem_append] at hr
        obtain hr | hr := hr
        · exact (follows_and_passes_of_mem_page hfilter htable hr).1
        · apply follows_of_follows_next hfilter htable
          exact ih (hfilter.next _) hlater hr

/-- The rows of a run are strictly ordered. -/
theorem rows_pairwise : ((q.fetches states).flatMap Fetch.rows).Pairwise Precedes := by
  induction states generalizing q with
  | nil => exact List.Pairwise.nil
  | cons table states ih =>
      obtain ⟨htable, hlater⟩ := List.forall_mem_cons.mp hstates
      by_cases hpage : q.page table = []
      · rw [fetches_of_page_eq_nil hpage]
        exact List.Pairwise.nil
      · have hnext := hfilter.next (q.page table)
        rw [fetches_of_page_ne_nil hpage, List.flatMap_cons, List.pairwise_append]
        refine ⟨page_pairwise htable, ih hnext hlater, ?_⟩
        -- a later row follows the cursor that this page leaves
        intro r hr s hs
        exact precedes_of_follows_next htable hr (follows_of_mem_rows hnext hlater hs)

/-- A run with an empty page has a row for every text after its first cursor that passes in all its states. -/
theorem mem_rows_of_present (hsize : q.pageSize ≠ 0) {text : String} (hfollows : q.Follows text)
    (hpresent : ∀ x ∈ q.fetches states, ∃ r ∈ x.table, idText r = text ∧ r.passes q.filter = true)
    (hend : ∃ x ∈ q.fetches states, x.rows = []) : text ∈ ((q.fetches states).flatMap Fetch.rows).map idText := by
  induction states generalizing q with
  | nil =>
      obtain ⟨x, hx, _⟩ := hend
      cases hx
  | cons table states ih =>
      obtain ⟨htable, hlater⟩ := List.forall_mem_cons.mp hstates
      by_cases hpage : q.page table = []
      · -- a record with the text is selected here, so the page is not empty
        rw [fetches_of_page_eq_nil hpage] at hpresent
        obtain ⟨r, hr, rfl, hpasses⟩ := hpresent _ List.mem_cons_self
        have hselects := (selects_iff hfilter (htable.hasId r hr)).mpr ⟨hfollows, hpasses⟩
        have hranked := mem_ranked_iff.mpr ⟨hr, hselects⟩
        rw [ranked_eq_nil_of_page_eq_nil hsize hpage] at hranked
        cases hranked
      · rw [fetches_of_page_ne_nil hpage] at hpresent hend ⊢
        obtain ⟨hhead, hrest⟩ := List.forall_mem_cons.mp hpresent
        obtain ⟨r, hr, rfl, hpasses⟩ := hhead
        rw [List.flatMap_cons, List.map_append, List.mem_append]
        -- the record of this state is on the page, or its text still follows the next cursor
        obtain hrow | hnext := mem_page_or_follows_next hfilter htable hsize hr hfollows hpasses
        · exact .inl (List.mem_map_of_mem hrow)
        · right
          apply ih (hfilter.next _) hlater (by rwa [next_pageSize]) hnext
          · rwa [next_filter]
          · obtain ⟨x, hx, hempty⟩ := hend
            obtain rfl | hx := List.mem_cons.mp hx
            · exact absurd hempty hpage
            · exact ⟨x, hx, hempty⟩

end Run

theorem follows_of_resumeAfter_eq_none (h : q.resumeAfter = none) (text : String) : q.Follows text := by
  intro c hc
  rw [h] at hc
  cases hc

/-- Over any changes of the table, the texts of the rows increase strictly, every row passes the filter in the state that
it was read from, and a run that ends with an empty page has read each text once that passed in all its states. -/
theorem fetches_of_changing_table (name uniqueId : String) {filter : Option Filter}
    (hfilter : ∀ f ∈ filter, ∃ s, Sql.compile f = .ok s) {n : Nat} (hn : 1 ≤ n) {states : List (List Record)}
    (hstates : ∀ table ∈ states, Keyed table) :
    let run := (((ofTable name uniqueId).filteredBy filter).ofSize n).fetches states
    let texts := (run.flatMap Fetch.rows).map idText
    run.map Fetch.table <+: states ∧
      texts.Pairwise (fun a b => Text.byteOrder a b = .lt) ∧ texts.Nodup ∧
      (∀ x ∈ run, ∀ r ∈ x.rows, r ∈ x.table ∧ r.passes filter = true) ∧
      ((∃ x ∈ run, x.rows = []) → ∀ text,
        (∀ x ∈ run, ∃ r ∈ x.table, idText r = text ∧ r.passes filter = true) → texts.count text = 1) := by
  intro run texts
  have hchecks : (((ofTable name uniqueId).filteredBy filter).ofSize n).FilterChecks :=
    filterChecks_of_compile hfilter
  have hsize : (((ofTable name uniqueId).filteredBy filter).ofSize n).pageSize ≠ 0 :=
    Nat.ne_of_gt hn
  have hordered : (run.flatMap Fetch.rows).Pairwise Precedes :=
    rows_pairwise hchecks hstates
  have hnodup : texts.Nodup :=
    List.pairwise_map.mpr (hordered.imp Precedes.idText_ne)
  refine ⟨map_table_prefix_states _ states, List.pairwise_map.mpr hordered, hnodup, ?_, ?_⟩
  · intro x hx r hr
    exact passes_of_mem_fetches hchecks hstates hx hr
  · intro hend text hpresent
    have hmem : text ∈ texts :=
      mem_rows_of_present hchecks hstates hsize (follows_of_resumeAfter_eq_none rfl text) hpresent hend
    rw [hnodup.count, if_pos hmem]

/-- While the first page is shown one row goes and another comes, and the row that stays is read once. -/
theorem count_of_row_that_stays :
    let filter : Option Filter := some (.test ⟨"size", .isNotNull, none⟩)
    let a : Record := [("str_id", .str "a"), ("size", .int 1)]
    let b : Record := [("str_id", .str "b"), ("size", .int 2)]
    let c : Record := [("str_id", .str "c"), ("size", .int 3)]
    let run := (((ofTable "items" "id").filteredBy filter).ofSize 2).fetches [[a, c], [b, c], [b]]
    ((run.flatMap Fetch.rows).map idText).Nodup ∧ ((run.flatMap Fetch.rows).map idText).count "c" = 1 := by
  intro filter a b c run
  have hfilter : ∀ f ∈ filter, ∃ s, Sql.compile f = .ok s := by
    intro f hf
    obtain rfl := Option.some.inj hf
    exact ⟨_, rfl⟩
  have hstates : ∀ table ∈ [[a, c], [b, c], [b]], Keyed table := by
    have hac : Keyed [a, c] := ⟨by simp [a, c, HasId, cursorColumn], by decide⟩
    have hbc : Keyed [b, c] := ⟨by simp [b, c, HasId, cursorColumn], by decide⟩
    have hb : Keyed [b] := ⟨by simp [b, HasId, cursorColumn], by decide⟩
    simp [hac, hbc, hb]
  let q := ((ofTable "items" "id").filteredBy filter).ofSize 2
  have hfirst : q.page [a, c] = [a, c] := by
    have hranked : q.ranked [a, c] = [a, c] := List.mergeSort_of_pairwise (by decide)
    rw [page_eq_take (by decide), hranked]
    rfl
  have hsecond : (q.next [a, c]).page [b, c] = [] := by
    have hnone : [b, c].filter (q.next [a, c]).selects = [] := List.filter_eq_nil_iff.mpr (by decide)
    rw [page_eq_take (by decide), ranked, hnone, List.mergeSort_nil, List.take_nil]
  have hrun : run = [⟨q, [a, c], [a, c]⟩, ⟨q.next [a, c], [b, c], []⟩] := by
    have hne : q.page [a, c] ≠ [] := by
      simp [hfirst]
    rw [show run = _ from fetches_of_page_ne_nil hne, hfirst, fetches_of_page_eq_nil hsecond]
  obtain ⟨_, _, hnodup, _, hcomplete⟩ := fetches_of_changing_table "items" "id" hfilter (by decide : 1 ≤ 2) hstates
  refine ⟨hnodup, hcomplete ⟨⟨q.next [a, c], [b, c], []⟩, ?_, rfl⟩ "c" ?_⟩
  · change _ ∈ run
    simp [hrun]
  · intro x hx
    change x ∈ run at hx
    rw [hrun] at hx
    have hmem : c ∈ x.table := by
      simp only [List.mem_cons, List.not_mem_nil, or_false] at hx
      obtain rfl | rfl := hx <;> simp
    exact ⟨c, hmem, rfl, rfl⟩

end FilterQuery.PageRequest

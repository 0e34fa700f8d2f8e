import FilterQuery.Proofs.Keyset.Page

/-!
Runs of pages. Every request of a run is the first one but for its cursor, and the tables that a run reads are the first of
the states, in order. -/

namespace FilterQuery.PageRequest

variable {q : PageRequest} {table : List Record} {states : List (List Record)}

theorem fetches_of_page_eq_nil (h : q.page table = []) : q.fetches (table :: states) = [⟨q, table, []⟩] := by
  simp [fetches, h]

theorem fetches_of_page_ne_nil (h : q.page table ≠ []) :
    q.fetches (table :: states) = ⟨q, table, q.page table⟩ :: (q.next (q.page table)).fetches states := by
  simp [fetches, h]

/-- The next request is the one before it, or starts after a row of the table. -/
theorem next_page_cases (q : PageRequest) (table : List Record) :
    q.next (q.page table) = q ∨ ∃ r ∈ table, q.next (q.page table) = q.startingAfter (some (idText r)) := by
  cases hlast : (q.page table).getLast? with
  | none =>
      left
      rw [List.getLast?_eq_none_iff.mp hlast, next_nil]
  | some r => exact .inr ⟨r, mem_table_of_mem_page (List.mem_of_getLast? hlast), next_of_getLast hlast⟩

/-- A fetch of a run is a page of one of the states, for the first request or for one that starts after a row of a state.
-/
theorem of_mem_fetches {x : Fetch} (hx : x ∈ q.fetches states) :
    x.table ∈ states ∧ x.rows = x.request.page x.table ∧
      (x.request = q ∨ ∃ table ∈ states, ∃ r ∈ table, x.request = q.startingAfter (some (idText r))) := by
  induction states generalizing q with
  | nil => cases hx
  | cons table states ih =>
      by_cases hpage : q.page table = []
      · rw [fetches_of_page_eq_nil hpage, List.mem_singleton] at hx
        subst hx
        exact ⟨List.mem_cons_self, hpage.symm, .inl rfl⟩
      · rw [fetches_of_page_ne_nil hpage, List.mem_cons] at hx
        obtain rfl | hx := hx
        · exact ⟨List.mem_cons_self, rfl, .inl rfl⟩
        · obtain ⟨htable, hrows, hrequest⟩ := ih hx
          refine ⟨List.mem_cons_of_mem _ htable, hrows, ?_⟩
          obtain hrequest | ⟨later, hlater, r, hr, hrequest⟩ := hrequest
          · obtain hnext | ⟨r, hr, hnext⟩ := next_page_cases q table
            · exact .inl (hrequest.trans hnext)
            · exact .inr ⟨table, List.mem_cons_self, r, hr, hrequest.trans hnext⟩
          · rw [next_startingAfter] at hrequest
            exact .inr ⟨later, List.mem_cons_of_mem _ hlater, r, hr, hrequest⟩

theorem filter_of_mem_fetches {x : Fetch} (hx : x ∈ q.fetches states) : x.request.filter = q.filter := by
  obtain ⟨_, _, hrequest | ⟨_, _, _, _, hrequest⟩⟩ := of_mem_fetches hx
  · rw [hrequest]
  · rw [hrequest]
    rfl

theorem map_table_prefix_states (q : PageRequest) (states : List (List Record)) :
    (q.fetches states).map Fetch.table <+: states := by
  induction states generalizing q with
  | nil => exact List.prefix_refl _
  | cons table states ih =>
      by_cases hpage : q.page table = []
      · rw [fetches_of_page_eq_nil hpage, List.map_singleton]
        exact List.prefix_append [table] states
      · rw [fetches_of_page_ne_nil hpage, List.map_cons]
        exact (List.prefix_cons_inj table).mpr (ih _)

end FilterQuery.PageRequest

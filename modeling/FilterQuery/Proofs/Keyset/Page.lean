import FilterQuery.Proofs.Keyset.Condition

/-!
One page. The rows of a page are the first of the records that its request selects, in strictly increasing order of their
texts. A selected record that is left out comes after the last row, which is where the next request starts, so it is
selected again there. -/

namespace FilterQuery.PageRequest

/-- The text of one record comes before that of another. -/
def Precedes (r s : Record) : Prop :=
  Text.byteOrder (idText r) (idText s) = .lt

theorem Precedes.trans {r s t : Record} (hrs : Precedes r s) (hst : Precedes s t) : Precedes r t :=
  Std.TransCmp.lt_trans hrs hst

theorem Precedes.not_symm {r s : Record} (h : Precedes r s) : ¬Precedes s r :=
  Std.OrientedCmp.not_lt_of_lt h

theorem Precedes.idText_ne {r s : Record} (h : Precedes r s) : idText r ≠ idText s := by
  intro heq
  rw [Precedes, heq, Text.byteOrder_self] at h
  cases h

theorem inOrder_iff {r s : Record} : inOrder r s = true ↔ Precedes r s ∨ idText r = idText s := by
  rw [inOrder, bne_iff_ne, Text.byteOrder_ne_gt_iff, Precedes]

theorem inOrder_trans (r s t : Record) (hrs : inOrder r s = true) (hst : inOrder s t = true) : inOrder r t = true := by
  rw [inOrder_iff] at *
  obtain hrs | hrs := hrs
  · obtain hst | hst := hst
    · exact .inl (hrs.trans hst)
    · exact .inl (by rwa [Precedes, ← hst])
  · obtain hst | hst := hst
    · exact .inl (by rwa [Precedes, hrs])
    · exact .inr (hrs.trans hst)

theorem inOrder_total (r s : Record) : (inOrder r s || inOrder s r) = true := by
  simp only [inOrder, Bool.or_eq_true, bne_iff_ne, ne_eq]
  rw [← Decidable.not_and_iff_not_or_not]
  intro ⟨hrs, hsr⟩
  rw [Std.OrientedCmp.gt_iff_lt] at hrs
  rw [hrs] at hsr
  cases hsr

/-! ### Tables -/

/-- A table whose records carry texts of their unique ids, no two the same. -/
structure Keyed (table : List Record) : Prop where
  hasId : ∀ r ∈ table, HasId r
  distinct : (table.map idText).Nodup

variable {q : PageRequest} {table rows : List Record}

theorem ranked_perm (q : PageRequest) (table : List Record) : (q.ranked table).Perm (table.filter q.selects) :=
  List.mergeSort_perm _ _

theorem mem_ranked_iff {r : Record} : r ∈ q.ranked table ↔ r ∈ table ∧ q.selects r = true := by
  rw [(ranked_perm q table).mem_iff, List.mem_filter]

/-- In a keyed table the selected records are strictly ordered. -/
theorem ranked_pairwise (h : Keyed table) : (q.ranked table).Pairwise Precedes := by
  have hsorted : (q.ranked table).Pairwise fun r s => inOrder r s = true :=
    List.pairwise_mergeSort inOrder_trans inOrder_total _
  have hdistinct : ((q.ranked table).map idText).Nodup := by
    have hsublist : ((table.filter q.selects).map idText).Sublist (table.map idText) :=
      List.filter_sublist.map idText
    exact ((ranked_perm q table).map idText).nodup_iff.mpr (h.distinct.sublist hsublist)
  have hne : (q.ranked table).Pairwise fun r s => idText r ≠ idText s :=
    List.pairwise_map.mp hdistinct
  apply (hsorted.and hne).imp
  intro r s ⟨hrs, hid⟩
  exact (inOrder_iff.mp hrs).resolve_right hid

/-! ### The next request -/

@[simp]
theorem next_nil (q : PageRequest) : q.next [] = q := rfl

theorem next_of_getLast {r : Record} (h : rows.getLast? = some r) :
    q.next rows = q.startingAfter (some (idText r)) := by
  rw [next, h]

@[simp]
theorem next_startingAfter (q : PageRequest) (rows : List Record) (cursor : Option String) :
    (q.next rows).startingAfter cursor = q.startingAfter cursor := by
  unfold next
  split <;> rfl

@[simp]
theorem next_filter (q : PageRequest) (rows : List Record) : (q.next rows).filter = q.filter := by
  unfold next
  split <;> rfl

@[simp]
theorem next_pageSize (q : PageRequest) (rows : List Record) : (q.next rows).pageSize = q.pageSize := by
  unfold next
  split <;> rfl

theorem FilterChecks.next (h : q.FilterChecks) (rows : List Record) : (q.next rows).FilterChecks := by
  rwa [FilterChecks, next_filter]

/-- After a page, the texts that follow are those after its last row. -/
theorem follows_next_iff {r : Record} (hlast : rows.getLast? = some r) (hr : HasId r) (text : String) :
    (q.next rows).Follows text ↔ Text.byteOrder (idText r) text = .lt := by
  rw [next_of_getLast hlast, Follows, resumeAfter]
  simp [startingAfter, hr.idText_ne]

/-! ### The rows of a page -/

theorem page_eq_take (hsize : q.pageSize ≠ 0) : q.page table = (q.ranked table).take q.pageSize := by
  rw [page, if_neg hsize]

theorem page_append_drop (hsize : q.pageSize ≠ 0) :
    q.page table ++ (q.ranked table).drop q.pageSize = q.ranked table := by
  rw [page_eq_take hsize, List.take_append_drop]

theorem page_sublist (q : PageRequest) (table : List Record) : (q.page table).Sublist (q.ranked table) := by
  unfold page
  split
  · exact List.Sublist.refl _
  · exact List.take_sublist _ _

theorem page_pairwise (h : Keyed table) : (q.page table).Pairwise Precedes :=
  (ranked_pairwise h).sublist (page_sublist q table)

theorem mem_table_of_mem_page {r : Record} (h : r ∈ q.page table) : r ∈ table :=
  (mem_ranked_iff.mp ((page_sublist q table).mem h)).1

theorem ranked_eq_nil_of_page_eq_nil (hsize : q.pageSize ≠ 0) (h : q.page table = []) : q.ranked table = [] := by
  rw [page_eq_take hsize, List.take_eq_nil_iff] at h
  exact h.resolve_left hsize

/-- The last row of a page is the greatest. -/
theorem precedes_or_eq_getLast (hrows : rows.Pairwise Precedes) {last r : Record} (hlast : rows.getLast? = some last)
    (hr : r ∈ rows) : Precedes r last ∨ r = last := by
  obtain ⟨front, rfl⟩ := List.getLast?_eq_some_iff.mp hlast
  obtain ⟨_, _, hfront⟩ := List.pairwise_append.mp hrows
  obtain hr | hr := List.mem_append.mp hr
  · exact .inl (hfront r hr last List.mem_cons_self)
  · exact .inr (List.mem_singleton.mp hr)

/-- What follows a page comes after each of its rows. -/
theorem precedes_of_follows_next (htable : Keyed table) {r : Record} (hr : r ∈ q.page table) {text : String}
    (h : (q.next (q.page table)).Follows text) : Text.byteOrder (idText r) text = .lt := by
  obtain ⟨last, hlast⟩ := Option.ne_none_iff_exists'.mp (mt List.getLast?_eq_none_iff.mp (List.ne_nil_of_mem hr))
  have hid := htable.hasId last (mem_table_of_mem_page (List.mem_of_getLast? hlast))
  have htext := (follows_next_iff hlast hid text).mp h
  obtain hprecedes | rfl := precedes_or_eq_getLast (page_pairwise htable) hlast hr
  · exact Std.TransCmp.lt_trans hprecedes htext
  · exact htext

section Step

variable (hfilter : q.FilterChecks) (htable : Keyed table)
include hfilter htable

theorem follows_and_passes_of_mem_page {r : Record} (h : r ∈ q.page table) :
    q.Follows (idText r) ∧ r.passes q.filter = true := by
  obtain ⟨hr, hselects⟩ := mem_ranked_iff.mp ((page_sublist q table).mem h)
  exact (selects_iff hfilter (htable.hasId r hr)).mp hselects

/-- What follows a page also followed the request of the page. -/
theorem follows_of_follows_next {text : String} (h : (q.next (q.page table)).Follows text) : q.Follows text := by
  cases hpage : q.page table with
  | nil => rwa [hpage] at h
  | cons r rows =>
      have hr : r ∈ q.page table := by
        rw [hpage]
        exact List.mem_cons_self
      obtain ⟨hfollows, _⟩ := follows_and_passes_of_mem_page hfilter htable hr
      intro c hc
      exact Std.TransCmp.lt_trans (hfollows c hc) (precedes_of_follows_next htable hr h)

/-- A record that the request selects is on the page, or it follows the page. -/
theorem mem_page_or_follows_next (hsize : q.pageSize ≠ 0) {r : Record} (hr : r ∈ table) (hfollows : q.Follows (idText r))
    (hpasses : r.passes q.filter = true) : r ∈ q.page table ∨ (q.next (q.page table)).Follows (idText r) := by
  have hranked : r ∈ q.ranked table :=
    mem_ranked_iff.mpr ⟨hr, (selects_iff hfilter (htable.hasId r hr)).mpr ⟨hfollows, hpasses⟩⟩
  rw [← page_append_drop hsize, List.mem_append] at hranked
  obtain hpage | hdrop := hranked
  · exact .inl hpage
  · right
    cases hlast : (q.page table).getLast? with
    | none => rwa [List.getLast?_eq_none_iff.mp hlast, next_nil]
    | some last =>
        have hmem := List.mem_of_getLast? hlast
        have hsorted := ranked_pairwise (q := q) htable
        rw [← page_append_drop hsize] at hsorted
        obtain ⟨_, _, hacross⟩ := List.pairwise_append.mp hsorted
        exact (follows_next_iff hlast (htable.hasId last (mem_table_of_mem_page hmem)) _).mpr (hacross last hmem r hdrop)

end Step

end FilterQuery.PageRequest

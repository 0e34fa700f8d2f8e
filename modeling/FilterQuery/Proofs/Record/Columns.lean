import FilterQuery.Proofs.Text.Order
import FilterQuery.Record.Columns

/-!
Things by the name of a column. What is put under a name is found there, all else is where it was, and the names stay in
increasing order, so each of them occurs once. -/

namespace FilterQuery.Columns

variable {α : Type} {cs : Columns α} {name n : String} {a : α}

def IsSorted (cs : Columns α) : Prop :=
  cs.Pairwise fun c d => Text.byteOrder c.1 d.1 = .lt

theorem lookup_cons_of_ne (hne : n ≠ name) (a : α) (cs : Columns α) : List.lookup n ((name, a) :: cs) = cs.lookup n := by
  rw [List.lookup_cons, beq_false_of_ne hne]

@[simp]
theorem lookup_insert_self (name : String) (a : α) (cs : Columns α) : (insert name a cs).lookup name = some a := by
  induction cs with
  | nil => exact List.lookup_cons_self
  | cons c rest ih =>
      rw [insert]
      cases horder : Text.byteOrder name c.1 with
      | lt => exact List.lookup_cons_self
      | eq => exact List.lookup_cons_self
      | gt =>
          have hne : name ≠ c.1 := by
            rintro rfl
            rw [Text.byteOrder_self] at horder
            cases horder
          exact (lookup_cons_of_ne hne c.2 _).trans ih

theorem lookup_insert_of_ne (hne : n ≠ name) (a : α) (cs : Columns α) : (insert name a cs).lookup n = cs.lookup n := by
  induction cs with
  | nil => exact lookup_cons_of_ne hne a []
  | cons c rest ih =>
      rw [insert]
      cases horder : Text.byteOrder name c.1 with
      | lt => exact lookup_cons_of_ne hne a _
      | eq =>
          obtain rfl := Text.byteOrder_eq_iff.mp horder
          exact (lookup_cons_of_ne hne a _).trans (lookup_cons_of_ne hne c.2 _).symm
      | gt =>
          rw [List.lookup_cons, List.lookup_cons]
          simp only [ih]

theorem mem_insert {c : String × α} (h : c ∈ insert name a cs) : c = (name, a) ∨ c ∈ cs := by
  induction cs with
  | nil => simpa [insert] using h
  | cons d rest ih =>
      rw [insert] at h
      cases horder : Text.byteOrder name d.1 with
      | lt => simpa [horder] using h
      | eq =>
          simp only [horder, List.mem_cons] at h
          exact h.imp_right (List.mem_cons_of_mem d)
      | gt =>
          simp only [horder, List.mem_cons] at h
          obtain rfl | h := h
          · exact .inr List.mem_cons_self
          · exact (ih h).imp_right (List.mem_cons_of_mem d)

theorem IsSorted.insert (h : cs.IsSorted) (name : String) (a : α) : (insert name a cs).IsSorted := by
  induction cs with
  | nil => exact List.pairwise_singleton ..
  | cons d rest ih =>
      obtain ⟨hd, hrest⟩ := List.pairwise_cons.mp h
      rw [Columns.insert]
      cases horder : Text.byteOrder name d.1 with
      | lt =>
          refine List.pairwise_cons.mpr ⟨?_, h⟩
          intro c hc
          obtain rfl | hc := List.mem_cons.mp hc
          · exact horder
          · exact Std.TransCmp.lt_trans horder (hd c hc)
      | eq =>
          obtain rfl := Text.byteOrder_eq_iff.mp horder
          exact List.pairwise_cons.mpr ⟨hd, hrest⟩
      | gt =>
          refine List.pairwise_cons.mpr ⟨?_, ih hrest⟩
          intro c hc
          obtain rfl | hc := mem_insert hc
          · exact Std.OrientedCmp.gt_iff_lt.mp horder
          · exact hd c hc

/-! ### Lists of pairs -/

theorem mem_names_iff : n ∈ cs.map Prod.fst ↔ (cs.lookup n).isSome = true := by
  rw [List.lookup_isSome_iff, List.mem_map]
  exact exists_congr fun c => and_congr_right fun _ => eq_comm.trans beq_iff_eq.symm

theorem mem_names_insert_iff : n ∈ (insert name a cs).map Prod.fst ↔ n = name ∨ n ∈ cs.map Prod.fst := by
  rw [mem_names_iff, mem_names_iff]
  by_cases hname : n = name
  · simp [hname]
  · simp [hname, lookup_insert_of_ne hname]

theorem isSorted_ofList (ps : List (String × α)) : (ofList ps).IsSorted := by
  have hrun (cs : Columns α) (hcs : cs.IsSorted) : (ps.foldl (fun cs p => insert p.1 p.2 cs) cs).IsSorted := by
    induction ps generalizing cs with
    | nil => exact hcs
    | cons p ps ih => exact ih _ (hcs.insert p.1 p.2)
  exact hrun [] .nil

/-- The names are those of the pairs. -/
theorem mem_names_ofList_iff (ps : List (String × α)) : n ∈ (ofList ps).map Prod.fst ↔ n ∈ ps.map Prod.fst := by
  have hrun (cs : Columns α) : n ∈ (ps.foldl (fun cs p => insert p.1 p.2 cs) cs).map Prod.fst ↔
      n ∈ cs.map Prod.fst ∨ n ∈ ps.map Prod.fst := by
    induction ps generalizing cs with
    | nil => simp
    | cons p ps ih =>
        rw [List.foldl_cons, ih, mem_names_insert_iff, List.map_cons, List.mem_cons, or_left_comm, or_assoc]
  exact (hrun []).trans (by simp)

end FilterQuery.Columns

import Mathlib.Logic.Relation
import FilterQuery.Proofs.Record.Holds
import FilterQuery.Proofs.Sql.Rendering

/-!
Filters that say the same by the laws of AND and OR. The parts of a group may be put in another order or repeated, a group may be
taken out of a group of the same kind, and a group of one part is as good as the part. Such a step, taken anywhere in a filter,
keeps which checks are passed and what the filter holds of, though not which failure is reported first. -/

namespace FilterQuery

namespace Filter

/-- A step by one of the laws of AND and OR, at any node. -/
inductive Rewrite : Filter → Filter → Prop
  | permute {k : Connective} {parts parts' : List Filter} (h : parts.Perm parts') : Rewrite (group k parts) (group k parts')
  | splice {k : Connective} {inner : List Filter} (before after : List Filter) (hne : inner ≠ []) :
      Rewrite (group k (before ++ group k inner :: after)) (group k (before ++ inner ++ after))
  | unwrap (k : Connective) (f : Filter) : Rewrite (group k [f]) f
  | wrap (k : Connective) (f : Filter) : Rewrite f (group k [f])
  | duplicate {k : Connective} {f : Filter} {before after : List Filter} (h : f ∈ before ++ after) :
      Rewrite (group k (before ++ after)) (group k (before ++ f :: after))
  | inside {k : Connective} {f f' : Filter} (before after : List Filter) (h : Rewrite f f') :
      Rewrite (group k (before ++ f :: after)) (group k (before ++ f' :: after))

/-! ### What groups depend on -/

theorem joinHolds_congr (k : Connective) {bs cs : List Bool} (h : ∀ b, b ∈ bs ↔ b ∈ cs) : joinHolds k bs = joinHolds k cs := by
  rw [Bool.eq_iff_iff]
  cases k with
  | all | any => simp [joinHolds, h]

theorem joinHolds_splice (k : Connective) (before inner after : List Bool) :
    joinHolds k (before ++ joinHolds k inner :: after) = joinHolds k (before ++ inner ++ after) := by
  cases k with
  | all | any => simp [joinHolds]

/-- Neither the order of the parts nor how often they occur matters to what a group holds of. -/
theorem holds_group_congr (k : Connective) {parts parts' : List Filter} (h : ∀ f, f ∈ parts' ↔ f ∈ parts) (r : Record) :
    (group k parts').holds r = (group k parts).holds r := by
  rw [holds_group, holds_group]
  apply joinHolds_congr
  simp [h]

variable {check : Test → Except Failure Unit}

/-- Neither the order of the parts nor how often they occur matters to whether a group passes its checks. -/
theorem checkAll_group_congr (k : Connective) {parts parts' : List Filter} (h : ∀ f, f ∈ parts' ↔ f ∈ parts) :
    (group k parts').checkAll check = .ok () ↔ (group k parts).checkAll check = .ok () := by
  simp only [checkAll_group_eq_ok_iff, ne_eq, List.eq_nil_iff_forall_not_mem, h]

theorem checkAll_group_append_iff {k : Connective} {before after : List Filter} {f : Filter} :
    (group k (before ++ f :: after)).checkAll check = .ok () ↔
      (∀ g ∈ before, g.checkAll check = .ok ()) ∧ f.checkAll check = .ok () ∧ ∀ g ∈ after, g.checkAll check = .ok () := by
  rw [checkAll_group_eq_ok_iff, List.forall_mem_append, List.forall_mem_cons]
  exact and_iff_right (List.append_ne_nil_of_right_ne_nil before (List.cons_ne_nil f after))

/-! ### What a step keeps -/

variable {f f' : Filter}

theorem mem_duplicate_iff {before after : List Filter} (h : f ∈ before ++ after) (g : Filter) :
    g ∈ before ++ f :: after ↔ g ∈ before ++ after := by
  constructor
  · intro hg
    obtain hg | hg := List.mem_append.mp hg
    · exact List.mem_append_left after hg
    · obtain rfl | hg := List.mem_cons.mp hg
      · exact h
      · exact List.mem_append_right before hg
  · intro hg
    obtain hg | hg := List.mem_append.mp hg
    · exact List.mem_append_left _ hg
    · exact List.mem_append_right before (List.mem_cons_of_mem f hg)

theorem Rewrite.checkAll_iff (h : Rewrite f f') : f'.checkAll check = .ok () ↔ f.checkAll check = .ok () := by
  induction h with
  | permute h => exact checkAll_group_congr _ fun g => h.mem_iff.symm
  | splice before after hne =>
      rw [checkAll_group_eq_ok_iff, checkAll_group_append_iff, checkAll_group_eq_ok_iff, List.forall_mem_append,
        List.forall_mem_append]
      simp [hne, and_assoc]
  | unwrap k f | wrap k f => simp [checkAll_group_eq_ok_iff]
  | duplicate h => exact checkAll_group_congr _ (mem_duplicate_iff h)
  | inside before after _ ih => rw [checkAll_group_append_iff, checkAll_group_append_iff, ih]

theorem Rewrite.holds_eq (h : Rewrite f f') (r : Record) : f'.holds r = f.holds r := by
  induction h with
  | permute h => exact holds_group_congr _ (fun g => h.mem_iff.symm) r
  | splice before after =>
      simp only [holds_group, List.map_append, List.map_cons]
      exact (joinHolds_splice _ _ _ _).symm
  | unwrap k f | wrap k f => cases k <;> simp [holds_group, joinHolds]
  | duplicate h => exact holds_group_congr _ (mem_duplicate_iff h) r
  | inside before after _ ih => simp only [holds_group, List.map_append, List.map_cons, ih]

/-! ### What any number of steps keeps -/

theorem checkAll_iff_of_rewrites (h : Relation.ReflTransGen Rewrite f f') :
    f'.checkAll check = .ok () ↔ f.checkAll check = .ok () := by
  induction h with
  | refl => exact Iff.rfl
  | tail _ hstep ih => exact hstep.checkAll_iff.trans ih

theorem holds_eq_of_rewrites (h : Relation.ReflTransGen Rewrite f f') (r : Record) : f'.holds r = f.holds r := by
  induction h with
  | refl => rfl
  | tail _ hstep ih => exact (hstep.holds_eq r).trans ih

/-- Any number of steps, anywhere in a filter, keep whether it compiles and whether it can be asked about records, and what the
answers are. -/
theorem uses_eq_of_rewrites (h : Relation.ReflTransGen Rewrite f f') :
    (∀ exprs, (∃ s, Sql.compileWith exprs f' = .ok s) ↔ ∃ s, Sql.compileWith exprs f = .ok s) ∧
      (∀ r, (∃ b, f'.matches? r = .ok b) ↔ ∃ b, f.matches? r = .ok b) ∧
      ∀ r b, f'.matches? r = .ok b ↔ f.matches? r = .ok b := by
  have hanswer (r : Record) (b : Bool) : f'.matches? r = .ok b ↔ f.matches? r = .ok b := by
    rw [matches?_eq, matches?_eq, map_check_eq_ok_iff, map_check_eq_ok_iff, checkAll_iff_of_rewrites h,
      holds_eq_of_rewrites h]
  refine ⟨?_, fun r => exists_congr (hanswer r), hanswer⟩
  intro exprs
  rw [Sql.exists_compileWith_iff, Sql.exists_compileWith_iff, checkAll_iff_of_rewrites h]

/-- A group is taken out of a group inside another, one is taken out of the outermost, and the parts change places and are
repeated. -/
theorem uses_eq_of_four_steps :
    let a : Filter := .test ⟨"a", .gt, some (.int 1)⟩
    let b : Filter := .test ⟨"b", .isNull, none⟩
    let c : Filter := .test ⟨"c", .isIn, some (.list [.str "x", .int 2])⟩
    let f : Filter := .group .any [.group .all [a, .group .all [b, c]], .group .any [a]]
    let f' : Filter := .group .any [a, .group .all [a, b, c], a]
    let r : Record := [("a", .int 1), ("c", .int 2)]
    Relation.ReflTransGen Rewrite f f' ∧ (∃ s, Sql.compile f' = .ok s) ∧ f.matches? r = .ok false ∧
      f'.matches? r = .ok false := by
  intro a b c f f' r
  have hinner : Rewrite f (.group .any [.group .all [a, b, c], .group .any [a]]) :=
    .inside [] [.group .any [a]] (.splice [a] [] (List.cons_ne_nil b [c]))
  have houter : Rewrite (.group .any [.group .all [a, b, c], .group .any [a]]) (.group .any [.group .all [a, b, c], a]) :=
    .splice [.group .all [a, b, c]] [] (List.cons_ne_nil a [])
  have hswap : Rewrite (.group .any [.group .all [a, b, c], a]) (.group .any [a, .group .all [a, b, c]]) :=
    .permute (.swap _ _ [])
  have hrepeat : Rewrite (.group .any ([a, .group .all [a, b, c]] ++ [])) f' := .duplicate List.mem_cons_self
  have hsteps : Relation.ReflTransGen Rewrite f f' :=
    (((Relation.ReflTransGen.single hinner).tail houter).tail hswap).tail hrepeat
  obtain ⟨hcompile, _, hanswer⟩ := uses_eq_of_rewrites hsteps
  have hf : f.matches? r = .ok false := rfl
  exact ⟨hsteps, (hcompile []).mpr ⟨_, rfl⟩, hf, (hanswer r false).mpr hf⟩

end Filter

end FilterQuery

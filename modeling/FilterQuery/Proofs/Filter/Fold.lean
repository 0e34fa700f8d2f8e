import FilterQuery.Filter.Build
import FilterQuery.Proofs.Failure.Steps

/-!
Filters as trees: induction over the parts of a group, folds without failures, and what `build` does when all it can fail
at is a check of the tests. Then the failure comes from the checks alone and the result from a fold, so two uses of a
filter that make the same checks fail together, with the same failure. -/

namespace FilterQuery

section Parts

variable {ν α : Type}

/-- Makes a step for each part of a group, the first of which has the given index. The first failure ends the work and is
wrapped with the place where it arose. -/
def eachPart (step : ν → Except Failure α) (k : Connective) : Nat → List ν → Except Failure (List α)
  | _, [] => .ok []
  | index, n :: ns =>
    match step n with
    | .error e => .error (.inPart k.word index e)
    | .ok a => (eachPart step k (index + 1) ns).map (a :: ·)

variable {step : ν → Except Failure α} {k : Connective}

theorem eachPart_eq_eachNumbered (index : Nat) (ns : List ν) :
    eachPart step k index ns = eachNumbered step (.inPart k.word) index ns := by
  induction ns generalizing index with
  | nil => rfl
  | cons n ns ih =>
      rw [eachPart, eachNumbered, ih (index + 1)]
      cases step n <;> rfl

theorem exists_eachPart_iff (index : Nat) {ns : List ν} :
    (∃ as, eachPart step k index ns = .ok as) ↔ ∀ n ∈ ns, ∃ a, step n = .ok a := by
  rw [eachPart_eq_eachNumbered]
  exact exists_eachNumbered_iff index

/-- The first part that fails ends the work, whatever comes after it. -/
theorem eachPart_append_eq_error {before : List ν} (hbefore : ∀ n ∈ before, ∃ a, step n = .ok a) {n : ν} {e : Failure}
    (hn : step n = .error e) (after : List ν) (index : Nat) :
    eachPart step k index (before ++ n :: after) = .error (.inPart k.word (index + before.length) e) := by
  rw [eachPart_eq_eachNumbered, eachNumbered_eq_error_iff]
  exact ⟨before, n, after, e, rfl, hbefore, hn, rfl⟩

theorem exists_of_eachPart_eq_error {ns : List ν} {index : Nat} {e : Failure} (h : eachPart step k index ns = .error e) :
    ∃ before n after cause, ns = before ++ n :: after ∧ (∀ m ∈ before, ∃ a, step m = .ok a) ∧ step n = .error cause ∧
      e = .inPart k.word (index + before.length) cause := by
  rw [eachPart_eq_eachNumbered] at h
  exact eachNumbered_eq_error_iff.mp h

/-- Steps that do the same to every part make the same of a group. -/
theorem eachPart_congr {step' : ν → Except Failure α} {ns : List ν} (h : ∀ n ∈ ns, step' n = step n) (index : Nat) :
    eachPart step' k index ns = eachPart step k index ns := by
  induction ns generalizing index with
  | nil => rfl
  | cons n ns ih =>
      obtain ⟨hn, hns⟩ := List.forall_mem_cons.mp h
      rw [eachPart, eachPart, hn, ih hns]

/-- A part may be replaced by one that the step does the same to. -/
theorem eachPart_replace {n n' : ν} (before after : List ν) (h : step n' = step n) (index : Nat) :
    eachPart step k index (before ++ n' :: after) = eachPart step k index (before ++ n :: after) := by
  induction before generalizing index with
  | nil => rw [List.nil_append, List.nil_append, eachPart, eachPart, h]
  | cons m before ih => rw [List.cons_append, List.cons_append, eachPart, eachPart, ih]

end Parts

namespace Filter

variable {α : Type}

/-- What holds of every test, and of a group whenever it holds of its parts, holds of every filter. -/
@[elab_as_elim]
theorem induction {motive : Filter → Prop} (test : ∀ t, motive (.test t))
    (group : ∀ k parts, (∀ f ∈ parts, motive f) → motive (.group k parts)) : ∀ f, motive f
  | .test t => test t
  | .group k parts => group k parts fun f _ => induction test group f

mutual

/-- What rules that cannot fail make of a filter. -/
def fold (test : Test → α) (join : Connective → List α → α) : Filter → α
  | .test t => test t
  | .group k parts => join k (foldAll test join parts)

def foldAll (test : Test → α) (join : Connective → List α → α) : List Filter → List α
  | [] => []
  | f :: fs => f.fold test join :: foldAll test join fs

end

section Fold

variable (test : Test → α) (join : Connective → List α → α)

@[simp]
theorem fold_test (t : Test) : fold test join (.test t) = test t := rfl

theorem foldAll_eq_map (fs : List Filter) : foldAll test join fs = fs.map (fold test join) := by
  induction fs with
  | nil => rfl
  | cons f fs ih => rw [foldAll, ih, List.map_cons]

@[simp]
theorem fold_group (k : Connective) (parts : List Filter) :
    fold test join (.group k parts) = join k (parts.map (fold test join)) := by
  rw [fold, foldAll_eq_map]

end Fold

@[simp]
theorem tests_test (t : Test) : (test t).tests = [t] := rfl

theorem testsOfAll_eq_flatMap (fs : List Filter) : testsOfAll fs = fs.flatMap tests := by
  induction fs with
  | nil => rfl
  | cons f fs ih => rw [testsOfAll, ih, List.flatMap_cons]

@[simp]
theorem tests_group (k : Connective) (parts : List Filter) : (group k parts).tests = parts.flatMap tests := by
  rw [tests, testsOfAll_eq_flatMap]

/-! ### Building with checks -/

/-- Makes the checks of a filter and nothing else. -/
def checkAll (check : Test → Except Failure Unit) (f : Filter) : Except Failure Unit :=
  f.build check fun _ _ => ()

theorem buildParts_eq_eachPart (test : Test → Except Failure α) (join : Connective → List α → α) (k : Connective)
    (index : Nat) (fs : List Filter) : buildParts test join k index fs = eachPart (build test join) k index fs := by
  induction fs generalizing index with
  | nil => rfl
  | cons f fs ih =>
      rw [buildParts, eachPart]
      cases build test join f with
      | error e => rfl
      | ok a => simp only [ih]

section Checked

variable (check : Test → Except Failure Unit) (leaf : Test → α) (join : Connective → List α → α)

theorem buildParts_checked (k : Connective) (fs : List Filter)
    (h : ∀ f ∈ fs, f.build (fun t => (check t).map fun _ => leaf t) join =
      (f.checkAll check).map fun _ => f.fold leaf join) (index : Nat) :
    buildParts (fun t => (check t).map fun _ => leaf t) join k index fs =
      (buildParts check (fun _ _ => ()) k index fs).map fun _ => fs.map (fold leaf join) := by
  induction fs generalizing index with
  | nil => rfl
  | cons f fs ih =>
      have hfs := ih (fun g hg => h g (List.mem_cons_of_mem _ hg)) (index + 1)
      rw [buildParts, buildParts, h f List.mem_cons_self, hfs, checkAll]
      cases f.build check fun _ _ => () with
      | error e => rfl
      | ok _ =>
          simp only [Except.map]
          cases buildParts check (fun _ _ => ()) k (index + 1) fs <;> rfl

/-- Rules that fail only at a check of the tests make the checks, and then fold. -/
theorem build_checked (f : Filter) :
    f.build (fun t => (check t).map fun _ => leaf t) join =
      (f.checkAll check).map fun _ => f.fold leaf join := by
  induction f using induction with
  | test t => rfl
  | group k parts ih =>
      cases parts with
      | nil => rfl
      | cons f fs =>
          rw [checkAll, build, build, buildParts_checked check leaf join k (f :: fs) ih, fold_group]
          cases buildParts check (fun _ _ => ()) k 0 (f :: fs) <;> rfl

end Checked

/-- A group with parts is built by making a step for each of them. -/
theorem build_group (test : Test → Except Failure α) (join : Connective → List α → α) (k : Connective) {parts : List Filter}
    (hne : parts ≠ []) :
    (group k parts).build test join = (eachPart (build test join) k 0 parts).map (join k) := by
  obtain ⟨f, fs, rfl⟩ := List.exists_cons_of_ne_nil hne
  rw [build, buildParts_eq_eachPart]

/-- Where a part is replaced by one of which the same is made, the same is made of the group. -/
theorem build_group_replace {test : Test → Except Failure α} {join : Connective → List α → α} {f f' : Filter}
    (h : f'.build test join = f.build test join) (k : Connective) (before after : List Filter) :
    (group k (before ++ f' :: after)).build test join = (group k (before ++ f :: after)).build test join := by
  rw [build_group test join k (by simp), build_group test join k (by simp), eachPart_replace before after h]

theorem checkAll_group (check : Test → Except Failure Unit) (k : Connective) {parts : List Filter} (hne : parts ≠ []) :
    (group k parts).checkAll check = (eachPart (checkAll check) k 0 parts).map fun _ => () :=
  build_group check (fun _ _ => ()) k hne

/-- A group passes the checks when it has parts and all of them pass. -/
theorem checkAll_group_eq_ok_iff (check : Test → Except Failure Unit) (k : Connective) (parts : List Filter) :
    (group k parts).checkAll check = .ok () ↔ parts ≠ [] ∧ ∀ f ∈ parts, f.checkAll check = .ok () := by
  by_cases hne : parts = []
  · subst hne
    simp [checkAll, build]
  · rw [checkAll_group check k hne, ← exists_unit_eq_ok_iff, exists_map_eq_ok_iff, exists_eachPart_iff]
    simp only [exists_unit_eq_ok_iff, ne_eq, hne, not_false_eq_true, true_and]

/-- A group fails at its first part that fails, whatever comes after it. -/
theorem checkAll_group_eq_error (check : Test → Except Failure Unit) (k : Connective) {before : List Filter}
    (hbefore : ∀ g ∈ before, g.checkAll check = .ok ()) {f : Filter} {e : Failure} (hf : f.checkAll check = .error e)
    (after : List Filter) : (group k (before ++ f :: after)).checkAll check = .error (.inPart k.word before.length e) := by
  rw [checkAll_group check k (by simp), eachPart_append_eq_error (fun g hg => ⟨(), hbefore g hg⟩) hf, Nat.zero_add]
  rfl

/-- A group that fails has no parts, or has a first part that fails. -/
theorem exists_of_checkAll_group_eq_error {check : Test → Except Failure Unit} {k : Connective} {parts : List Filter}
    {e : Failure} (h : (group k parts).checkAll check = .error e) :
    parts = [] ∧ e = .invalidShape (.emptyGroup k) ∨
      ∃ before f after e', parts = before ++ f :: after ∧ (∀ g ∈ before, g.checkAll check = .ok ()) ∧
        f.checkAll check = .error e' ∧ e = .inPart k.word before.length e' := by
  by_cases hne : parts = []
  · subst hne
    exact .inl ⟨rfl, (Except.error.inj h).symm⟩
  · rw [checkAll_group check k hne, map_eq_error_iff] at h
    obtain ⟨before, f, after, e', hparts, hbefore, hf, he⟩ := exists_of_eachPart_eq_error h
    rw [Nat.zero_add] at he
    exact .inr ⟨before, f, after, e', hparts, fun g hg => exists_unit_eq_ok_iff.mp (hbefore g hg), hf, he⟩

/-- Behind its positions, a failure of the checks is that of one test or of a group without parts. -/
theorem root_of_checkAll_eq_error {check : Test → Except Failure Unit} {P : Failure → Prop}
    (htest : ∀ t e, check t = .error e → P e.root) (hempty : ∀ k, P (.invalidShape (.emptyGroup k))) {f : Filter}
    {e : Failure} (h : f.checkAll check = .error e) : P e.root := by
  induction f using induction generalizing e with
  | test t => exact htest t e h
  | group k parts ih =>
      rcases exists_of_checkAll_group_eq_error h with ⟨_, rfl⟩ | ⟨before, f, after, e', rfl, _, hf, rfl⟩
      · exact hempty k
      · have hroot : P e'.root := ih f (by simp) hf
        exact hroot

@[simp]
theorem checkAll_test (check : Test → Except Failure Unit) (t : Test) : (test t).checkAll check = check t := rfl

end Filter

end FilterQuery

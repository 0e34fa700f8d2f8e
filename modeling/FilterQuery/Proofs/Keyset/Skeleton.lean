import FilterQuery.Proofs.Keyset.Statement

/-!
What the text of a statement depends on. Of a filter it shows the tree, the fields, the operators and how many arguments each
test has; a request adds its names, the width of its cast, and whether there is a cursor and a page size. The values
themselves, the text of the cursor and the number of rows stand in the arguments alone, so two requests that differ in nothing
else have the same text. -/

namespace FilterQuery

open Sql

/-- What is left of a filter without its values: of each test the field, the operator and the number of arguments. -/
inductive Skeleton
  | test (field : String) (operator : Operator) (arity : Nat)
  | group (k : Connective) (parts : List Skeleton)

namespace Filter

def skeleton (f : Filter) : Skeleton :=
  f.fold (fun t => .test t.field t.operator t.arguments.length) .group

@[simp]
theorem skeleton_test (t : Test) : (test t).skeleton = .test t.field t.operator t.arguments.length := rfl

@[simp]
theorem skeleton_group (k : Connective) (parts : List Filter) :
    (group k parts).skeleton = .group k (parts.map skeleton) :=
  fold_group _ _ k parts

end Filter

theorem Test.written_congr {t t' : Test} (hop : t.operator = t'.operator)
    (hlength : t.arguments.length = t'.arguments.length) (column : Text) :
    t.written column (fun _ => placeholder) = t'.written column fun _ => placeholder := by
  rw [written, written, List.map_const', List.map_const', hop, hlength]

namespace Filter

variable {column : String → Text}

theorem map_text_congr {fs gs : List Filter}
    (h : ∀ f ∈ fs, ∀ g : Filter, f.skeleton = g.skeleton → f.text column = g.text column)
    (hskeleton : fs.map skeleton = gs.map skeleton) : fs.map (text column) = gs.map (text column) := by
  induction fs generalizing gs with
  | nil =>
      obtain rfl := List.map_eq_nil_iff.mp hskeleton.symm
      rfl
  | cons f fs ih =>
      cases gs with
      | nil => cases hskeleton
      | cons g gs =>
          obtain ⟨hf, hfs⟩ := List.forall_mem_cons.mp h
          obtain ⟨hhead, htail⟩ := List.cons.inj hskeleton
          rw [List.map_cons, List.map_cons, hf g hhead, ih hfs htail]

/-- Filters with the same skeleton have the same text, whatever values they compare with. -/
theorem text_congr {f g : Filter} (h : f.skeleton = g.skeleton) : f.text column = g.text column := by
  induction f using Filter.induction generalizing g with
  | test t =>
      cases g with
      | test t' =>
          rw [skeleton_test, skeleton_test, Skeleton.test.injEq] at h
          obtain ⟨hfield, hop, hlength⟩ := h
          rw [text, text, written_test, written_test, hfield]
          exact Test.written_congr hop hlength _
      | group l gs => simp at h
  | group k fs ih =>
      cases g with
      | test t' => simp at h
      | group l gs =>
          rw [skeleton_group, skeleton_group, Skeleton.group.injEq] at h
          obtain ⟨rfl, hparts⟩ := h
          have htexts := map_text_congr ih hparts
          rw [text, text, written_group, written_group]
          exact congrArg (joinTexts k) htexts

end Filter

namespace PageRequest

variable {q q' : PageRequest}

/-- The skeleton of a condition, given whether there is a cursor and the skeleton of the filter. -/
def conditionSkeleton (resumes : Bool) (filter : Option Skeleton) : Option Skeleton :=
  match resumes, filter with
  | true, some f => some (.group .all [.test cursorColumn .gt 1, f])
  | true, none => some (.test cursorColumn .gt 1)
  | false, f => f

theorem map_skeleton_condition (q : PageRequest) :
    q.condition.map Filter.skeleton = conditionSkeleton q.resumeAfter.isSome (q.filter.map Filter.skeleton) := by
  have hcursor (c : String) : (cursorTest c).skeleton = .test cursorColumn .gt 1 := rfl
  unfold condition
  cases q.resumeAfter with
  | none => rfl
  | some c =>
      cases q.filter with
      | none => simp [conditionSkeleton, hcursor]
      | some f => simp [conditionSkeleton, hcursor]

theorem selectText_congr (htable : q.table = q'.table) (hcast : q.castId = q'.castId) : q.selectText = q'.selectText := by
  unfold selectText
  rw [hcast, htable]

theorem whereText_congr (hcast : q.castId = q'.castId)
    (hcondition : q.condition.map Filter.skeleton = q'.condition.map Filter.skeleton) : q.whereText = q'.whereText := by
  have hcolumn := columnText_congr hcast
  unfold whereText
  cases hf : q.condition with
  | none =>
      rw [hf, Option.map_none, eq_comm, Option.map_eq_none_iff] at hcondition
      rw [hcondition]
  | some f =>
      rw [hf, Option.map_some, eq_comm, Option.map_eq_some_iff] at hcondition
      obtain ⟨g, hg, hskeleton⟩ := hcondition
      rw [hg, hcolumn]
      simp only [Filter.text_congr hskeleton]

theorem tailText_congr (hsize : q.pageSize = 0 ↔ q'.pageSize = 0) :
    q.tailText = q'.tailText := by
  unfold tailText
  by_cases h : q.pageSize = 0
  · rw [if_pos h, if_pos (hsize.mp h)]
  · rw [if_neg h, if_neg (mt hsize.mpr h)]

/-- The values in a request: the text of the cursor, those of the filter, and the number of rows. -/
def values (q : PageRequest) : List Value :=
  q.resumeAfter.toList.map .str ++ q.filter.toList.flatMap Filter.arguments ++
    if q.pageSize = 0 then [] else [.int (Int64.ofNat q.pageSize)]

theorem whereArgs_append_tailArgs (q : PageRequest) : q.whereArgs ++ q.tailArgs = q.values := by
  have hcursor (c : String) : (cursorTest c).arguments = [.str c] := rfl
  have hwhere : q.whereArgs = q.resumeAfter.toList.map .str ++ q.filter.toList.flatMap Filter.arguments := by
    unfold whereArgs condition
    cases q.resumeAfter with
    | none => cases q.filter <;> simp
    | some c => cases q.filter <;> simp [hcursor]
  rw [hwhere, values, tailArgs]

/-- Values, cursors and page sizes do not show in the text of a statement. Of two requests for the same table, unique id and
width, whose filters have the same skeleton, which both have a cursor or both have none, and which both have a page size or both
have none, the texts are the same wherever both have a statement. The values are the arguments. -/
theorem sql_eq_of_same_skeleton {s s' : Statement} (htable : q.table = q'.table) (huid : q.uniqueId = q'.uniqueId)
    (hwidth : q.castWidth = q'.castWidth) (hfilter : q.filter.map Filter.skeleton = q'.filter.map Filter.skeleton)
    (hcursor : q.resumeAfter.isSome = q'.resumeAfter.isSome) (hsize : q.pageSize = 0 ↔ q'.pageSize = 0)
    (hs : q.statement = .ok s) (hs' : q'.statement = .ok s') :
    s.sql = s'.sql ∧ s.args = q.values ∧ s'.args = q'.values := by
  obtain ⟨_, rfl⟩ := statement_eq_ok_iff.mp hs
  obtain ⟨_, rfl⟩ := statement_eq_ok_iff.mp hs'
  have hcast := castId_congr huid hwidth
  have hselect := selectText_congr htable hcast
  have hwhere : q.whereText = q'.whereText := by
    apply whereText_congr hcast
    rw [map_skeleton_condition, map_skeleton_condition, hcursor, hfilter]
  refine ⟨?_, q.whereArgs_append_tailArgs, q'.whereArgs_append_tailArgs⟩
  rw [Statement.sql, Statement.sql, hselect, hwhere, tailText_congr hsize]

/-- One value of IN against a list of one, a cursor that looks like a statement, and another number of rows. -/
theorem sql_eq_of_hostile_values :
    let f : Filter := .group .any [.test ⟨"str_id", .isIn, some (.int 7)⟩, .test ⟨"note", .ne, some (.str "x")⟩,
      .test ⟨"gone", .isNull, none⟩]
    let g : Filter := .group .any [.test ⟨"str_id", .isIn, some (.list [.str "` OR 1=1 --"])⟩,
      .test ⟨"note", .ne, some (.bool true)⟩, .test ⟨"gone", .isNull, none⟩]
    let q := (((ofTable "items" "id").filteredBy (some f)).startingAfter (some "500")).ofSize 10
    let q' := (((ofTable "items" "id").filteredBy (some g)).startingAfter (some "'; DROP TABLE items; --")).ofSize 4000
    ∃ s s', q.statement = .ok s ∧ q'.statement = .ok s' ∧
      s.sql = s'.sql ∧ s.args = q.values ∧ s'.args = q'.values := by
  refine ⟨?s, ?s', ?hs, ?hs', sql_eq_of_same_skeleton ?table ?uid ?width ?filter ?cursor ?size ?hs ?hs'⟩
  case hs => rfl
  case hs' => rfl
  case size => decide
  all_goals rfl

end PageRequest

end FilterQuery

import FilterQuery.Proofs.Keyset.LastOfEach
import FilterQuery.Proofs.Keyset.Statement
import FilterQuery.Proofs.Record.Rejection

/-!
Why a request has no statement. Five things can be wrong with a request, all of them at once, and the first of them in a
fixed order is what is reported: the number of rows, the cursor, the table, the unique id, the filter. The cursor shows in
the failure of a filter only by the place that it leaves to the filter, and the cast of the unique id not at all. -/

namespace FilterQuery

namespace Sql

theorem root_ne_of_checkTest {t : Test} {e : Failure} (h : checkTest t = .error e) {r : Failure}
    (hr : r.code = "RANGE_EXCEEDED") : e.root ≠ r := by
  rintro rfl
  rcases checkTest_eq_error_iff.mp h with ⟨_, rfl⟩ | ⟨_, hcheck⟩
  · simp [Failure.root, Failure.code] at hr
  · obtain rfl | rfl | ⟨_, rfl⟩ := Test.exists_of_check_eq_error hcheck <;> simp [Failure.root, Failure.code] at hr

/-- No filter is refused for a range: it has neither a number of rows nor a cursor. -/
theorem root_ne_of_compile {f : Filter} {e : Failure} (h : compile f = .error e) {r : Failure}
    (hr : r.code = "RANGE_EXCEEDED") : e.root ≠ r := by
  rw [compile, compileWith_eq_error_iff] at h
  refine Filter.root_of_checkAll_eq_error (P := (· ≠ r)) (fun _ _ ht => root_ne_of_checkTest ht hr) ?_ h
  rintro k rfl
  simp [Failure.code] at hr

end Sql

namespace PageRequest

/-- The number of rows is within a cap, and the cursor is no number beyond its bound. -/
structure InBounds (q : PageRequest) (cap : Nat) : Prop where
  pageSize : q.pageSize ≤ cap
  cursor : ∀ c ∈ q.resumeAfter, isBeyondBound c = false

/-- The names of the table and of the unique id are on the allow-list. -/
structure HasNames (q : PageRequest) : Prop where
  table : Sql.isIdentifier q.table = true
  uniqueId : Sql.isIdentifier q.uniqueId = true

/-- A failure that a request has, where everything that is looked at before it is right. -/
inductive Refusal (q : PageRequest) (cap : Nat) : Failure → Prop
  | pageSize (h : cap < q.pageSize) : Refusal q cap (.pageTooLong q.pageSize cap)
  | cursor (hsize : q.pageSize ≤ cap) {c : String} (hc : q.resumeAfter = some c) (h : isBeyondBound c = true) :
      Refusal q cap (.cursorTooGreat c Limits.pageBound)
  | table (hbounds : q.InBounds cap) (h : Sql.isIdentifier q.table = false) :
      Refusal q cap (.invalidIdentifier q.table)
  | uniqueId (hbounds : q.InBounds cap) (htable : Sql.isIdentifier q.table = true)
      (h : Sql.isIdentifier q.uniqueId = false) : Refusal q cap (.invalidIdentifier q.uniqueId)
  | filter (hbounds : q.InBounds cap) (hnames : q.HasNames) {f : Filter} (hf : q.filter = some f)
      (hfirst : q.resumeAfter = none) {e : Failure} (h : Sql.compile f = .error e) : Refusal q cap e
  | filterAfterCursor (hbounds : q.InBounds cap) (hnames : q.HasNames) {f : Filter} (hf : q.filter = some f) {c : String}
      (hc : q.resumeAfter = some c) {e : Failure} (h : Sql.compile f = .error e) : Refusal q cap (.inPart "AND" 1 e)

variable {q : PageRequest} {e : Failure}

theorem checkPageSize_eq_error_iff :
    q.checkPageSize = .error e ↔ q.maxPageSize < q.pageSize ∧ e = .pageTooLong q.pageSize q.maxPageSize := by
  unfold checkPageSize
  by_cases h : q.maxPageSize < q.pageSize
  · simp [h, eq_comm (a := e)]
  · simp [h]

theorem checkCursor_eq_error_iff : q.checkCursor = .error e ↔
    ∃ c, q.resumeAfter = some c ∧ isBeyondBound c = true ∧ e = .cursorTooGreat c Limits.pageBound := by
  rw [checkCursor_eq]
  cases q.resumeAfter with
  | none => simp
  | some c => cases h : isBeyondBound c <;> simp [h, eq_comm (a := e)]

/-! ### Failures of the condition -/

theorem whereStatement_eq_error_iff :
    q.whereStatement = .error e ↔ ∃ f ∈ q.condition, f.checkAll Sql.checkTest = .error e := by
  unfold whereStatement
  cases q.condition with
  | none => simp
  | some f => simp [map_eq_error_iff, Sql.compileWith_eq_error_iff]

theorem whereStatement_eq_error_iff_of_first (hfirst : q.resumeAfter = none) :
    q.whereStatement = .error e ↔ ∃ f, q.filter = some f ∧ Sql.compile f = .error e := by
  rw [whereStatement_eq_error_iff, condition, hfirst]
  simp [Sql.compile, Sql.compileWith_eq_error_iff]

/-- The test of the cursor never fails, so what fails behind a cursor is the filter, and it is the second part of the
condition. -/
theorem whereStatement_eq_error_iff_of_cursor {c : String} (hc : q.resumeAfter = some c) :
    q.whereStatement = .error e ↔ ∃ f e', q.filter = some f ∧ Sql.compile f = .error e' ∧ e = .inPart "AND" 1 e' := by
  have hbefore : ∀ g ∈ [cursorTest c], g.checkAll Sql.checkTest = .ok () := by
    intro g hg
    obtain rfl := List.mem_singleton.mp hg
    exact checkAll_cursorTest c
  rw [whereStatement_eq_error_iff, condition, hc]
  cases q.filter with
  | none => simp [checkAll_cursorTest]
  | some f =>
      simp only [Sql.compile, Sql.compileWith_eq_error_iff, Option.mem_def, Option.some.injEq, exists_eq_left',
        exists_and_left]
      cases hf : f.checkAll Sql.checkTest with
      | ok _ =>
          have hgroup : (Filter.group .all [cursorTest c, f]).checkAll Sql.checkTest = .ok () :=
            (Filter.checkAll_group_eq_ok_iff _ _ _).mpr ⟨List.cons_ne_nil _ _, by simp [checkAll_cursorTest, hf]⟩
          simp [hgroup]
      | error e' =>
          have hgroup := Filter.checkAll_group_eq_error Sql.checkTest .all hbefore hf []
          rw [List.singleton_append, List.length_singleton] at hgroup
          simp [hgroup, Connective.word, eq_comm (a := e)]

/-! ### Failures of the request -/

theorem exists_statement_iff : (∃ s, q.statement = .ok s) ↔ q.WellFormed := by
  constructor
  · rintro ⟨s, hs⟩
    exact (statement_eq_ok_iff.mp hs).1
  · exact WellFormed.exists_statement

theorem wellFormed_iff_inBounds (hcap : q.maxPageSize ≤ Limits.pageBound) : q.WellFormed ↔
    q.InBounds q.maxPageSize ∧ q.HasNames ∧ ∀ f ∈ q.filter, ∃ s, Sql.compile f = .ok s := by
  constructor
  · intro h
    exact ⟨⟨h.pageSize, h.cursor⟩, ⟨h.table, h.uniqueId⟩, fun f hf => (Sql.exists_compileWith_iff [] f).mpr (h.filter f hf)⟩
  · rintro ⟨hbounds, hnames, hfilter⟩
    exact ⟨hbounds.pageSize, hbounds.cursor, hnames.table, hnames.uniqueId, filterChecks_of_compile hfilter,
      Nat.le_trans hbounds.pageSize hcap⟩

theorem refusal_of_whereStatement {cap : Nat} (hbounds : q.InBounds cap) (hnames : q.HasNames)
    (h : q.whereStatement = .error e) : q.Refusal cap e := by
  cases hc : q.resumeAfter with
  | none =>
      obtain ⟨f, hf, hcompile⟩ := (whereStatement_eq_error_iff_of_first hc).mp h
      exact .filter hbounds hnames hf hc hcompile
  | some c =>
      obtain ⟨f, e', hf, hcompile, rfl⟩ := (whereStatement_eq_error_iff_of_cursor hc).mp h
      exact .filterAfterCursor hbounds hnames hf hc hcompile

theorem statement_eq_error_iff_or : q.statement = .error e ↔ q.Refusal q.maxPageSize e ∨
    q.InBounds q.maxPageSize ∧ q.HasNames ∧ (∃ s, q.whereStatement = .ok s) ∧ q.tailStatement = .error e := by
  simp only [statement, check_bind_eq_error_iff, checkPageSize_eq_error_iff, checkPageSize_eq_ok_iff,
    checkCursor_eq_error_iff, checkCursor_eq_ok_iff, Sql.checkIdentifier_eq_error_iff, Sql.checkIdentifier_eq_ok_iff]
  simp only [bind_eq_error_iff]
  constructor
  · rintro (⟨h, rfl⟩ | ⟨hsize, ⟨c, hc, h, rfl⟩ | ⟨hcursor, hrest⟩⟩)
    · exact .inl (.pageSize h)
    · exact .inl (.cursor hsize hc h)
    · have hbounds : q.InBounds q.maxPageSize := ⟨hsize, hcursor⟩
      rcases hrest with ⟨h, rfl⟩ | ⟨htable, ⟨h, rfl⟩ | ⟨huid, hwhere | ⟨s, hs, htail | ⟨_, _, ⟨⟩⟩⟩⟩⟩
      · exact .inl (.table hbounds h)
      · exact .inl (.uniqueId hbounds htable h)
      · exact .inl (refusal_of_whereStatement hbounds ⟨htable, huid⟩ hwhere)
      · exact .inr ⟨hbounds, ⟨htable, huid⟩, ⟨s, hs⟩, htail⟩
  · rintro (h | ⟨hbounds, hnames, ⟨s, hs⟩, htail⟩)
    swap
    · exact .inr ⟨hbounds.pageSize, .inr ⟨hbounds.cursor, .inr ⟨hnames.table, .inr ⟨hnames.uniqueId,
        .inr ⟨s, hs, .inl htail⟩⟩⟩⟩⟩
    cases h with
    | pageSize h => exact .inl ⟨h, rfl⟩
    | cursor hsize hc h => exact .inr ⟨hsize, .inl ⟨_, hc, h, rfl⟩⟩
    | table hbounds h => exact .inr ⟨hbounds.pageSize, .inr ⟨hbounds.cursor, .inl ⟨h, rfl⟩⟩⟩
    | uniqueId hbounds htable h =>
        exact .inr ⟨hbounds.pageSize, .inr ⟨hbounds.cursor, .inr ⟨htable, .inl ⟨h, rfl⟩⟩⟩⟩
    | filter hbounds hnames hf hfirst h =>
        have hwhere := (whereStatement_eq_error_iff_of_first hfirst).mpr ⟨_, hf, h⟩
        exact .inr ⟨hbounds.pageSize, .inr ⟨hbounds.cursor, .inr ⟨hnames.table, .inr ⟨hnames.uniqueId, .inl hwhere⟩⟩⟩⟩
    | filterAfterCursor hbounds hnames hf hc h =>
        have hwhere := (whereStatement_eq_error_iff_of_cursor hc).mpr ⟨_, _, hf, h, rfl⟩
        exact .inr ⟨hbounds.pageSize, .inr ⟨hbounds.cursor, .inr ⟨hnames.table, .inr ⟨hnames.uniqueId, .inl hwhere⟩⟩⟩⟩

/-- Where the cap is a word, so is every page size within it, and the end of the statement does not fail. -/
theorem tailStatement_ne_error (hcap : q.maxPageSize ≤ Limits.pageBound) (hsize : q.pageSize ≤ q.maxPageSize) :
    q.tailStatement ≠ .error e := by
  rw [Ne, tailStatement_eq_error_iff]
  rintro ⟨hlt, _⟩
  exact Nat.not_lt.mpr (Nat.le_trans hsize hcap) hlt

/-- A request without a statement is refused for the first thing that is wrong with it. -/
theorem statement_eq_error_iff (hcap : q.maxPageSize ≤ Limits.pageBound) :
    q.statement = .error e ↔ q.Refusal q.maxPageSize e := by
  rw [statement_eq_error_iff_or]
  refine or_iff_left ?_
  rintro ⟨hbounds, _, _, htail⟩
  exact tailStatement_ne_error hcap hbounds.pageSize htail

theorem maxPageSize_changedBy_ofTable (table uniqueId : String) (changes : List Change) :
    ((ofTable table uniqueId).changedBy changes).maxPageSize = min (lastLimits changes).maxPageSize Limits.pageBound :=
  congrArg PageRequest.maxPageSize (changedBy_ofTable table uniqueId changes)

/-- A request that was changed in any way has a statement when its bounds are kept, its names are on the allow-list and
its filter compiles, and is otherwise refused for the first thing that is wrong with it. The cap is that of the limits
that were set last, but never beyond its own bound, so a number of rows within the cap is taken as a word of 32 bits. -/
theorem refused_in_fixed_order (table uniqueId : String) (changes : List Change) :
    let q := (ofTable table uniqueId).changedBy changes
    let cap := min (lastLimits changes).maxPageSize Limits.pageBound
    (∀ e, q.statement = .error e ↔ q.Refusal cap e) ∧
      ((∃ s, q.statement = .ok s) ↔ q.InBounds cap ∧ q.HasNames ∧ ∀ f ∈ q.filter, ∃ s, Sql.compile f = .ok s) ∧
      (q.pageSize ≤ cap → ∃ rows : UInt32, rows.toNat = q.pageSize ∧ q.pageSizeWord = .ok rows) := by
  intro q cap
  have hcap : q.maxPageSize = cap := maxPageSize_changedBy_ofTable table uniqueId changes
  have hbound : q.maxPageSize ≤ Limits.pageBound := Built.maxPageSize_le ⟨table, uniqueId, changes, rfl⟩
  rw [← hcap]
  refine ⟨fun _ => statement_eq_error_iff hbound, ?_, ?_⟩
  · rw [exists_statement_iff, wellFormed_iff_inBounds hbound]
  · intro hsize
    have hword : q.pageSize < UInt32.size := q.lt_size_iff.mpr (Nat.le_trans hsize hbound)
    have hrows : (UInt32.ofNatLT q.pageSize hword).toNat = q.pageSize := UInt32.toNat_ofNatLT
    exact ⟨_, hrows, pageSizeWord_eq_ok_iff.mpr hrows⟩

/-- Everything is wrong at once, and then all but the filter is put right. -/
theorem refused_in_fixed_order_of_all_faults :
    let f : Filter := .group .any [.test ⟨"gone", .isNull, none⟩, .test ⟨"str_id", .isIn, some (.list [])⟩]
    let setup : List Change := [.limits ⟨0, 0, 70000, 0, 6000000000⟩, .filter (some f), .cursor (some "0004294967296")]
    ((ofTable "items;" "i d").changedBy (setup ++ [.pageSize 4294967296])).statement =
        .error (.pageTooLong 4294967296 4294967295) ∧
      ((ofTable "items;" "i d").changedBy (setup ++ [.pageSize 4294967295])).statement =
        .error (.cursorTooGreat "0004294967296" 4294967295) ∧
      ((ofTable "items;" "i d").changedBy (setup ++ [.cursor (some "7")])).statement = .error (.invalidIdentifier "items;") ∧
      ((ofTable "items" "i d").changedBy (setup ++ [.cursor (some "7")])).statement = .error (.invalidIdentifier "i d") ∧
      ((ofTable "items" "id").changedBy (setup ++ [.cursor (some "7")])).statement =
        .error (.inPart "AND" 1 (.inPart "OR" 1 (.missingValue "str_id" .isIn))) := by
  intro f setup
  have hbounds {q : PageRequest} {cap : Nat} (hsize : q.pageSize ≤ cap) (hc : q.resumeAfter = some "7") : q.InBounds cap := by
    refine ⟨hsize, ?_⟩
    intro c hcursor
    rw [hc, Option.mem_some] at hcursor
    subst hcursor
    decide
  refine ⟨?size, ?cursor, ?table, ?uniqueId, ?filter⟩
  case size => exact ((refused_in_fixed_order _ _ _).1 _).mpr (.pageSize (by decide))
  case cursor => exact ((refused_in_fixed_order _ _ _).1 _).mpr (.cursor (by decide) rfl (by decide))
  case table => exact ((refused_in_fixed_order _ _ _).1 _).mpr (.table (hbounds (by decide) rfl) (by decide))
  case uniqueId =>
    exact ((refused_in_fixed_order _ _ _).1 _).mpr (.uniqueId (hbounds (by decide) rfl) (by decide) (by decide))
  case filter =>
    have hnames : ((ofTable "items" "id").changedBy (setup ++ [.cursor (some "7")])).HasNames := ⟨by decide, by decide⟩
    exact ((refused_in_fixed_order _ _ _).1 _).mpr (.filterAfterCursor (hbounds (by decide) rfl) hnames rfl rfl rfl)

end PageRequest

end FilterQuery

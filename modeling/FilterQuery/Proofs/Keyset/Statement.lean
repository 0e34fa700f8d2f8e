import FilterQuery.Proofs.Keyset.Condition

/-!
The statement of a page request, put together from its parts. A request has a statement when it is well formed, and then the
text is what the request selects from, its condition and its end, one after the other; the condition is the only part that
looks at the filter and the cursor. -/

namespace FilterQuery

namespace PageRequest

variable {q : PageRequest}

/-- What stands for a field in the condition: the cast of the unique id for the cursor column, else the quoted field. -/
def columnText (q : PageRequest) : String → Sql.Text :=
  Sql.columnText [(cursorColumn, String.ofList q.castId)]

theorem columnText_cursorColumn (q : PageRequest) : q.columnText cursorColumn = q.castId := by
  simp [columnText, Sql.columnText]

theorem columnText_of_ne (q : PageRequest) {name : String} (h : name ≠ cursorColumn) :
    q.columnText name = Sql.quote name := by
  simp [columnText, Sql.columnText, List.lookup_cons, beq_false_of_ne h]

theorem castId_congr {q' : PageRequest} (huid : q.uniqueId = q'.uniqueId) (hwidth : q.castWidth = q'.castWidth) :
    q.castId = q'.castId := by
  rw [castId, castId, huid, hwidth]

theorem columnText_congr {q' : PageRequest} (hcast : q.castId = q'.castId) : q.columnText = q'.columnText := by
  rw [columnText, columnText, hcast]

/-- The part of the statement that holds the condition, with the word before it. -/
def whereText (q : PageRequest) : Sql.Text :=
  match q.condition with
  | none => []
  | some f => " WHERE (".toList ++ f.text q.columnText ++ [')']

def whereArgs (q : PageRequest) : List Value :=
  match q.condition with
  | none => []
  | some f => f.arguments

theorem whereStatement_eq_ok_iff {s : Sql.Statement} :
    q.whereStatement = .ok s ↔ q.FilterChecks ∧ s = ⟨q.whereText, q.whereArgs⟩ := by
  rw [← checkAll_condition_iff, whereStatement, whereText, whereArgs]
  cases q.condition with
  | none => simp [eq_comm]
  | some f =>
      simp only [map_eq_ok_iff, Sql.compileWith_eq_ok_iff, Option.mem_some_iff, forall_eq']
      constructor
      · rintro ⟨_, ⟨hcheck, rfl⟩, rfl⟩
        exact ⟨hcheck, rfl⟩
      · rintro ⟨hcheck, rfl⟩
        exact ⟨_, ⟨hcheck, rfl⟩, rfl⟩

def tailText (q : PageRequest) : Sql.Text :=
  ' ' :: Sql.orderText (Sql.quote cursorColumn) false ++ if q.pageSize = 0 then [] else ' ' :: Sql.limitText

def tailArgs (q : PageRequest) : List Value :=
  if q.pageSize = 0 then [] else [.int (Int64.ofNat q.pageSize)]

theorem lt_size_iff (q : PageRequest) : q.pageSize < UInt32.size ↔ q.pageSize ≤ Limits.pageBound :=
  Nat.lt_succ_iff

theorem pageSizeWord_eq_ok_iff {rows : UInt32} : q.pageSizeWord = .ok rows ↔ rows.toNat = q.pageSize := by
  unfold pageSizeWord
  by_cases h : q.pageSize < UInt32.size
  · rw [dif_pos h, Except.ok.injEq, ← UInt32.toNat_inj, UInt32.toNat_ofNatLT]
    exact eq_comm
  · rw [dif_neg h]
    refine iff_of_false nofun ?_
    intro hrows
    exact h (hrows ▸ rows.toNat_lt)

/-- The end of a statement fails where the page size is no word, which it is where there is none. -/
theorem tailStatement_eq (q : PageRequest) : q.tailStatement =
    if q.pageSize ≤ Limits.pageBound then .ok ⟨q.tailText, q.tailArgs⟩
    else .error (.pageTooLong q.pageSize Limits.pageBound) := by
  unfold tailStatement pageSizeWord tailText tailArgs
  by_cases hle : q.pageSize ≤ Limits.pageBound
  · rw [if_pos hle, dif_pos (q.lt_size_iff.mpr hle)]
    by_cases hzero : q.pageSize = 0
    · rw [if_pos hzero, if_pos hzero, if_pos hzero, List.append_nil]
    · rw [if_neg hzero, if_neg hzero, if_neg hzero, Except.map, UInt32.toNat_ofNatLT]
  · have hne : q.pageSize ≠ 0 := fun hzero => hle (hzero ▸ Nat.zero_le _)
    rw [if_neg hle, if_neg hne, dif_neg (mt q.lt_size_iff.mp hle)]
    rfl

theorem tailStatement_eq_ok_iff {s : Sql.Statement} :
    q.tailStatement = .ok s ↔ q.pageSize ≤ Limits.pageBound ∧ s = ⟨q.tailText, q.tailArgs⟩ := by
  rw [tailStatement_eq]
  split <;> simp [*, eq_comm (a := s)]

theorem tailStatement_eq_error_iff {e : Failure} :
    q.tailStatement = .error e ↔ Limits.pageBound < q.pageSize ∧ e = .pageTooLong q.pageSize Limits.pageBound := by
  rw [tailStatement_eq, ← Nat.not_le]
  split <;> simp [*, eq_comm (a := e)]

theorem checkPageSize_eq_ok_iff : q.checkPageSize = .ok () ↔ q.pageSize ≤ q.maxPageSize := by
  unfold checkPageSize
  split <;> simp <;> omega

theorem checkCursor_eq_ok_iff : q.checkCursor = .ok () ↔ ∀ c ∈ q.resumeAfter, isBeyondBound c = false := by
  rw [checkCursor_eq]
  cases q.resumeAfter with
  | none => simp
  | some c => cases h : isBeyondBound c <;> simp [h]

theorem wellFormed_iff : q.WellFormed ↔ q.checkPageSize = .ok () ∧ q.checkCursor = .ok () ∧
    Sql.checkIdentifier q.table = .ok () ∧ Sql.checkIdentifier q.uniqueId = .ok () ∧ q.FilterChecks ∧
      q.pageSize ≤ Limits.pageBound := by
  rw [checkPageSize_eq_ok_iff, checkCursor_eq_ok_iff, Sql.checkIdentifier_eq_ok_iff, Sql.checkIdentifier_eq_ok_iff]
  constructor
  · intro ⟨hsize, hcursor, htable, huid, hfilter, hword⟩
    exact ⟨hsize, hcursor, htable, huid, hfilter, hword⟩
  · intro ⟨hsize, hcursor, htable, huid, hfilter, hword⟩
    exact ⟨hsize, hcursor, htable, huid, hfilter, hword⟩

/-- A request has a statement exactly when it is well formed, and the statement is that of its parts. -/
theorem statement_eq_ok_iff {s : Sql.Statement} :
    q.statement = .ok s ↔ q.WellFormed ∧
      s = ⟨q.selectText ++ q.whereText ++ q.tailText, q.whereArgs ++ q.tailArgs⟩ := by
  rw [wellFormed_iff, statement]
  simp only [bind_eq_ok_iff, whereStatement_eq_ok_iff, tailStatement_eq_ok_iff]
  constructor
  · rintro ⟨_, hsize, _, hcursor, _, htable, _, huid, _, ⟨hfilter, rfl⟩, _, ⟨hword, rfl⟩, hs⟩
    exact ⟨⟨hsize, hcursor, htable, huid, hfilter, hword⟩, (Except.ok.inj hs).symm⟩
  · rintro ⟨⟨hsize, hcursor, htable, huid, hfilter, hword⟩, rfl⟩
    exact ⟨(), hsize, (), hcursor, (), htable, (), huid, _, ⟨hfilter, rfl⟩, _, ⟨hword, rfl⟩, rfl⟩

theorem WellFormed.exists_statement (h : q.WellFormed) : ∃ s, q.statement = .ok s :=
  ⟨_, statement_eq_ok_iff.mpr ⟨h, rfl⟩⟩

end PageRequest

end FilterQuery

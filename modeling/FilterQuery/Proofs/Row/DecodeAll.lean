import FilterQuery.Proofs.Failure.Steps
import FilterQuery.Row.Decode

/-!
Rows decoded one after another: all of them, in order, or none. The first that fails is named by its index and ends the
work, so what comes after it is never looked at, and rows may be decoded in two parts if the indices of the second go on
where the first ends. -/

namespace FilterQuery.Row

variable {attributes : List Attribute} {rows xs ys : List Row} {objects : List (Columns Value)} {e : Failure}

theorem decodeFrom_eq_eachNumbered (attributes : List Attribute) (index : Nat) (rows : List Row) :
    decodeFrom attributes index rows = eachNumbered (decode · attributes) .inRow index rows := by
  induction rows generalizing index with
  | nil => rfl
  | cons row rows ih =>
      rw [decodeFrom, eachNumbered, ih (index + 1)]
      cases row.decode attributes <;> rfl

theorem decodeAll_eq_eachNumbered (rows : List Row) (attributes : List Attribute) :
    decodeAll rows attributes = eachNumbered (decode · attributes) .inRow 0 rows :=
  decodeFrom_eq_eachNumbered attributes 0 rows

theorem decodeAll_eq_ok_iff : decodeAll rows attributes = .ok objects ↔
    List.Forall₂ (fun row object => row.decode attributes = .ok object) rows objects := by
  rw [decodeAll_eq_eachNumbered]
  exact eachNumbered_eq_ok_iff 0

/-- As many results as rows, each in the place of its row. -/
theorem decodeAll_eq_ok_iff_getElem : decodeAll rows attributes = .ok objects ↔ objects.length = rows.length ∧
    ∀ i (hrow : i < rows.length) (hobject : i < objects.length), rows[i].decode attributes = .ok objects[i] := by
  rw [decodeAll_eq_ok_iff, List.forall₂_iff_get, eq_comm]
  rfl

theorem exists_decodeAll_iff :
    (∃ objects, decodeAll rows attributes = .ok objects) ↔ ∀ row ∈ rows, ∃ object, row.decode attributes = .ok object := by
  rw [decodeAll_eq_eachNumbered]
  exact exists_eachNumbered_iff 0

theorem decodeAll_eq_error_iff : decodeAll rows attributes = .error e ↔
    ∃ before row after cause, rows = before ++ row :: after ∧ (∀ r ∈ before, ∃ object, r.decode attributes = .ok object) ∧
      row.decode attributes = .error cause ∧ e = .inRow before.length cause := by
  rw [decodeAll_eq_eachNumbered, eachNumbered_eq_error_iff]
  simp only [Nat.zero_add]

theorem decodeAll_append (hxs : decodeAll xs attributes = .ok objects) (ys : List Row) :
    decodeAll (xs ++ ys) attributes = (decodeFrom attributes xs.length ys).map (objects ++ ·) := by
  rw [decodeAll_eq_eachNumbered] at hxs
  rw [decodeAll_eq_eachNumbered, eachNumbered_append, hxs, Nat.zero_add, decodeFrom_eq_eachNumbered]
  rfl

/-- Rows fail at the same place wherever their indices begin. -/
theorem decodeFrom_eq_error_of_decodeAll {i : Nat} {cause : Failure} (h : decodeAll ys attributes = .error (.inRow i cause))
    (index : Nat) : decodeFrom attributes index ys = .error (.inRow (index + i) cause) := by
  obtain ⟨before, row, after, cause', rfl, hbefore, hrow, heq⟩ := decodeAll_eq_error_iff.mp h
  obtain ⟨rfl, rfl⟩ := Failure.inRow.inj heq
  rw [decodeFrom_eq_eachNumbered, eachNumbered_eq_error_iff]
  exact ⟨before, row, after, cause, rfl, hbefore, hrow, rfl⟩

theorem decodeFrom_eq_ok_of_decodeAll (h : decodeAll ys attributes = .ok objects) (index : Nat) :
    decodeFrom attributes index ys = .ok objects := by
  rw [decodeFrom_eq_eachNumbered]
  exact (eachNumbered_eq_ok_iff index).mpr (decodeAll_eq_ok_iff.mp h)

theorem decodeAll_append_eq_error (h : decodeAll xs attributes = .error e) (ys : List Row) :
    decodeAll (xs ++ ys) attributes = .error e := by
  obtain ⟨before, row, after, cause, rfl, hbefore, hrow, rfl⟩ := decodeAll_eq_error_iff.mp h
  exact decodeAll_eq_error_iff.mpr ⟨before, row, after ++ ys, cause, by simp, hbefore, hrow, rfl⟩

theorem exists_decodeAll_append_iff : (∃ objects, decodeAll (xs ++ ys) attributes = .ok objects) ↔
    (∃ objects, decodeAll xs attributes = .ok objects) ∧ ∃ objects, decodeAll ys attributes = .ok objects := by
  rw [exists_decodeAll_iff, exists_decodeAll_iff, exists_decodeAll_iff, List.forall_mem_append]

/-- Decoding rows gives what each row is decoded to, in order, or the failure of the first row that fails, with its index,
whatever rows come after it. Of rows in two parts, both must be decoded; the results are put together, a failure in the first
part stays as it is, and one in the second part has its index moved on by the length of the first. -/
theorem decodeAll_fails_at_first (attributes : List Attribute) :
    (∀ rows objects, decodeAll rows attributes = .ok objects ↔ objects.length = rows.length ∧
        ∀ i (hrow : i < rows.length) (hobject : i < objects.length), rows[i].decode attributes = .ok objects[i]) ∧
      (∀ rows, (∃ objects, decodeAll rows attributes = .ok objects) ↔
        ∀ row ∈ rows, ∃ object, row.decode attributes = .ok object) ∧
      (∀ rows e, decodeAll rows attributes = .error e ↔ ∃ before row after cause, rows = before ++ row :: after ∧
        (∀ r ∈ before, ∃ object, r.decode attributes = .ok object) ∧ row.decode attributes = .error cause ∧
          e = .inRow before.length cause) ∧
      ∀ xs ys,
        ((∃ objects, decodeAll (xs ++ ys) attributes = .ok objects) ↔
          (∃ objects, decodeAll xs attributes = .ok objects) ∧ ∃ objects, decodeAll ys attributes = .ok objects) ∧
        (∀ e, decodeAll xs attributes = .error e → decodeAll (xs ++ ys) attributes = .error e) ∧
        ∀ first, decodeAll xs attributes = .ok first →
          (∀ second, decodeAll ys attributes = .ok second → decodeAll (xs ++ ys) attributes = .ok (first ++ second)) ∧
          ∀ i cause, decodeAll ys attributes = .error (.inRow i cause) →
            decodeAll (xs ++ ys) attributes = .error (.inRow (xs.length + i) cause) := by
  refine ⟨fun _ _ => decodeAll_eq_ok_iff_getElem, fun _ => exists_decodeAll_iff, fun _ _ => decodeAll_eq_error_iff,
    fun xs ys => ⟨exists_decodeAll_append_iff, fun _ h => decodeAll_append_eq_error h ys, fun first hxs => ⟨?_, ?_⟩⟩⟩
  · intro second hys
    rw [decodeAll_append hxs, decodeFrom_eq_ok_of_decodeAll hys]
    rfl
  · intro i cause hys
    rw [decodeAll_append hxs, decodeFrom_eq_error_of_decodeAll hys]
    rfl

/-- Of two bad rows in the second part the first is reported. -/
theorem decodeAll_of_two_bad_rows :
    let attributes : List Attribute := [⟨"active", .boolean, false⟩]
    let good : List Row := [[("active", some [116])], [("name", none)]]
    let bad : List Row := [[("active", some [48])], [("active", some [120])], [("active", some [255])]]
    decodeAll good attributes = .ok [[("active", .bool true)], []] ∧
      decodeAll bad attributes = .error (.inRow 1 (.badCell "active" "x" .notBoolean)) ∧
      decodeAll (good ++ bad) attributes = .error (.inRow 3 (.badCell "active" "x" .notBoolean)) ∧
      decodeAll (bad ++ good) attributes = .error (.inRow 1 (.badCell "active" "x" .notBoolean)) := by
  intro attributes good bad
  have hgood : decodeAll good attributes = .ok [[("active", .bool true)], []] := by rfl
  have hbad : decodeAll bad attributes = .error (.inRow 1 (.badCell "active" "x" .notBoolean)) := by rfl
  obtain ⟨_, _, _, hparts⟩ := decodeAll_fails_at_first attributes
  obtain ⟨_, _, hsecond⟩ := hparts good bad
  obtain ⟨_, hfirst, _⟩ := hparts bad good
  exact ⟨hgood, hbad, (hsecond _ hgood).2 1 _ hbad, hfirst _ hbad⟩

end FilterQuery.Row

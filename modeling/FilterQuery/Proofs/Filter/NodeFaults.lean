import FilterQuery.Proofs.Filter.Node
import FilterQuery.Proofs.Filter.Place

/-!
What is wrong with a tree of nodes that is not turned into a filter. A node is reached through groups, each of which is filled
in one way only. It can be too deep, or filled in no way or in several, or a test whose operator is not known, and is asked
for these in this order. The first fault of the nodes that are reached is reported. What stands inside a node that is filled
in several ways is not reached, so it can be anything. -/

namespace FilterQuery.FilterNode

/-- The ways in which a node is filled: as a group of all, as a group of any, as a test. -/
def ways (n : FilterNode) : List Kind :=
  (if n.all.isEmpty then [] else [.group .all]) ++ (if n.any.isEmpty then [] else [.group .any]) ++
    (if n.field != "" || n.operator != "" || n.value.isSome then [.test] else [])

/-- The parts of a node that is a group and nothing else. -/
def parts? (n : FilterNode) : Option (Connective × List FilterNode) :=
  match n.kind with
  | .ok (.group .all) => some (.all, n.all)
  | .ok (.group .any) => some (.any, n.any)
  | _ => none

/-- What is wrong with a node at a place below a root of the given depth. -/
inductive Fault (max depth : Nat) (p : Place) (n : FilterNode) : Failure → Prop
  | tooDeep (h : max < depth + p.length) : Fault max depth p n (.filterTooDeep max)
  | shape (hdepth : depth + p.length ≤ max) (hways : n.ways.length ≠ 1) {fault : ShapeFault}
      (h : n.kind = .error (.invalidShape fault)) : Fault max depth p n (.invalidShape fault)
  | operator (hdepth : depth + p.length ≤ max) (hways : n.ways = [.test]) (h : Operator.ofText? n.operator = none) :
      Fault max depth p n (.unknownOperator n.operator)

/-- A node inside a tree is replaced by one that is misshapen in the same way, whatever stands inside the two. -/
inductive Refilled : FilterNode → FilterNode → Prop
  | here {n n' : FilterNode} {e : Failure} (h : n.kind = .error e) (h' : n'.kind = .error e) : Refilled n n'
  | inside {k : Connective} {m m' : FilterNode} (before after : List FilterNode) (h : Refilled m m') :
      Refilled (ofParts k (before ++ m :: after)) (ofParts k (before ++ m' :: after))

/-! ### Kinds and ways -/

theorem kind_eq_ok_iff {n : FilterNode} {kind : Kind} : n.kind = .ok kind ↔ n.ways = [kind] := by
  rw [FilterNode.kind, ways]
  generalize (n.field != "" || n.operator != "" || n.value.isSome) = test
  cases n.all.isEmpty <;> cases n.any.isEmpty <;> cases test <;> simp

theorem ways_length_ne_of_kind_error {n : FilterNode} {e : Failure} (h : n.kind = .error e) : n.ways.length ≠ 1 := by
  intro hlength
  obtain ⟨kind, hways⟩ := List.length_eq_one_iff.mp hlength
  rw [kind_eq_ok_iff.mpr hways] at h
  cases h

theorem parts?_ofParts (k : Connective) {nodes : List FilterNode} (hne : nodes ≠ []) :
    (ofParts k nodes).parts? = some (k, nodes) := by
  rw [parts?, kind_ofParts k hne]
  cases k <;> rfl

theorem parts?_of_kind_test {n : FilterNode} (h : n.kind = .ok .test) : n.parts? = none := by
  rw [parts?, h]

/-! ### Faults of nodes -/

theorem Fault.unique {max depth : Nat} {p : Place} {n : FilterNode} {e e' : Failure} (h : n.Fault max depth p e)
    (h' : n.Fault max depth p e') : e = e' := by
  cases h with
  | tooDeep h =>
      cases h' with
      | tooDeep => rfl
      | shape hdepth | operator hdepth => exact absurd h (Nat.not_lt.mpr hdepth)
  | shape hdepth hways h =>
      cases h' with
      | tooDeep hdeep => exact absurd hdeep (Nat.not_lt.mpr hdepth)
      | shape _ _ h' => exact Except.error.inj (h.symm.trans h')
      | operator _ htest => exact absurd (congrArg List.length htest) hways
  | operator hdepth htest =>
      cases h' with
      | tooDeep hdeep => exact absurd hdeep (Nat.not_lt.mpr hdepth)
      | shape _ hways => exact absurd (congrArg List.length htest) hways
      | operator => rfl

theorem Fault.bare {max depth : Nat} {p : Place} {n : FilterNode} {e : Failure} (h : n.Fault max depth p e) :
    e.place = [] ∧ e.root = e := by
  cases h <;> exact ⟨rfl, rfl⟩

theorem fault_cons_iff {max depth : Nat} (k : Connective) (i : Nat) (p : Place) (n : FilterNode) (e : Failure) :
    n.Fault max depth ((k, i) :: p) e ↔ n.Fault max (depth + 1) p e := by
  have hlength : depth + ((k, i) :: p).length = depth + 1 + p.length := by
    rw [List.length_cons]
    omega
  constructor
  · intro h
    cases h with
    | tooDeep h => exact .tooDeep (by rwa [hlength] at h)
    | shape hdepth hways h => exact .shape (hlength ▸ hdepth) hways h
    | operator hdepth hways h => exact .operator (hlength ▸ hdepth) hways h
  · intro h
    cases h with
    | tooDeep h => exact .tooDeep (hlength ▸ h)
    | shape hdepth hways h => exact .shape (hlength ▸ hdepth) hways h
    | operator hdepth hways h => exact .operator (hlength ▸ hdepth) hways h

/-- Turning a node into a filter reports the first fault of the nodes that are reached. -/
theorem reports_toFilterAt (max depth : Nat) (n : FilterNode) :
    Reports (Leads parts? n) (Fault max depth) (n.toFilterAt (some max) depth) := by
  have hbound {depth : Nat} (hdepth : isTooDeep (some max) depth = false) : depth + ([] : Place).length ≤ max :=
    isTooDeep_eq_false_iff.mp hdepth max rfl
  induction depth, n using induction_within (some max) with
  | tooDeep depth n hdepth =>
      rw [toFilterAt_of_isTooDeep hdepth]
      have hmax : max < depth := by simpa [isTooDeep] using hdepth
      exact .here (.tooDeep hmax)
  | faulty depth n fault hdepth hkind =>
      rw [toFilterAt_of_kind_error hdepth hkind]
      exact .here (.shape (hbound hdepth) (ways_length_ne_of_kind_error hkind) hkind)
  | test depth field text value hdepth hkind =>
      rw [toFilterAt_of_kind_test hdepth hkind, toTest]
      have hways := kind_eq_ok_iff.mp hkind
      split
      · rename_i op hop
        refine .ok _ ?_
        intro p m e hp hfault
        obtain ⟨rfl, rfl⟩ := (leads_iff_of_none (parts?_of_kind_test hkind)).mp hp
        cases hfault with
        | tooDeep h => exact absurd h (Nat.not_lt.mpr (hbound hdepth))
        | shape _ hmany => exact hmany (congrArg List.length hways)
        | operator _ _ h =>
            rw [hop] at h
            cases h
      · rename_i hop
        exact .here (.operator (hbound hdepth) hways hop)
  | group depth k nodes hdepth hne ih =>
      have hroot : ∀ e, ¬Fault max depth [] (ofParts k nodes) e := by
        have hways := kind_eq_ok_iff.mp (kind_ofParts k hne)
        intro e hfault
        cases hfault with
        | tooDeep h => exact absurd h (Nat.not_lt.mpr (hbound hdepth))
        | shape _ hmany => exact hmany (congrArg List.length hways)
        | operator _ htest =>
            rw [hways] at htest
            cases htest
      rw [toFilterAt_ofParts hdepth k hne, toFiltersAt_eq_eachPart]
      exact ((Reports.eachPart (fault_cons_iff k) ih 0).ofParts (parts?_ofParts k hne) hroot).map _

/-! ### Nodes that are not reached -/

theorem toFilterAt_of_refilled {n n' : FilterNode} (h : n.Refilled n') (limit : Option Nat) (depth : Nat) :
    n'.toFilterAt limit depth = n.toFilterAt limit depth := by
  induction h generalizing depth with
  | here h h' =>
      cases hdepth : isTooDeep limit depth with
      | true => rw [toFilterAt_of_isTooDeep hdepth, toFilterAt_of_isTooDeep hdepth]
      | false => rw [toFilterAt_of_kind_error hdepth h, toFilterAt_of_kind_error hdepth h']
  | inside before after _ ih =>
      cases hdepth : isTooDeep limit depth with
      | true => rw [toFilterAt_of_isTooDeep hdepth, toFilterAt_of_isTooDeep hdepth]
      | false =>
          rw [toFilterAt_ofParts hdepth _ (by simp), toFilterAt_ofParts hdepth _ (by simp), toFiltersAt_eq_eachPart,
            toFiltersAt_eq_eachPart, eachPart_replace before after (ih (depth + 1))]

/-- Within a limit on the depth, a node fails exactly when a node that is reached has a fault. The failure spells the place of
the first of these, and its root is the fault. Nothing depends on what stands inside a misshapen node. -/
theorem toFilterWithin_names_first_fault (max : Nat) (n : FilterNode) :
    ((∃ e, n.toFilterWithin max = .error e) ↔ ∃ p m e, Leads parts? n p m ∧ m.Fault max 1 p e) ∧
      (∀ e, n.toFilterWithin max = .error e ↔ ∃ p m cause,
        FirstFault (Leads parts? n) (fun p m => m.Fault max 1 p) p m cause ∧ e = cause.within p ∧
          e.place = p.spelled ∧ e.root = cause) ∧
      ∀ n', n.Refilled n' → n'.toFilterWithin max = n.toFilterWithin max := by
  have hreports : Reports (Leads parts? n) (fun p m => m.Fault max 1 p) (n.toFilterWithin max) :=
    n.reports_toFilterAt max 1
  refine ⟨hreports.exists_error_iff, ?_, ?_⟩
  · intro e
    exact hreports.eq_error_iff_spelled (fun _ _ _ _ h h' => h.unique h') (fun _ _ _ h => h.bare)
  · intro n' h
    exact toFilterAt_of_refilled h (some max) 1

/-- The second part is a group and a test at once. What its group holds is too deep, and after it comes an operator that is not
known; neither is reported, and the group may hold anything else. -/
theorem toFilterWithin_names_first_of_three_faults :
    let unknown : FilterNode := ⟨"b", "LIKE", none, [], []⟩
    let mixed (nodes : List FilterNode) : FilterNode := ⟨"a", "", none, nodes, []⟩
    let n (nodes : List FilterNode) : FilterNode :=
      ofParts .any ([⟨"a", " = ", some (.int 1), [], []⟩] ++ mixed nodes :: [unknown])
    let fault : Failure := .invalidShape (.mixed true false true)
    (n [ofParts .all [unknown]]).toFilterWithin 2 = .error (.inPart "OR" 1 fault) ∧
      (n [unknown]).toFilterWithin 2 = .error (.inPart "OR" 1 fault) ∧
      ∃ m, FirstFault (Leads parts? (n [unknown])) (fun p m => m.Fault 2 1 p) [(.any, 1)] m fault := by
  intro unknown mixed n fault
  have herror : (n [ofParts .all [unknown]]).toFilterWithin 2 = .error (.inPart "OR" 1 fault) := rfl
  have hrefilled : Refilled (n [ofParts .all [unknown]]) (n [unknown]) :=
    .inside _ _ (.here (e := fault) rfl rfl)
  have hsame := (toFilterWithin_names_first_fault 2 (n [ofParts .all [unknown]])).2.2 _ hrefilled
  rw [herror] at hsame
  obtain ⟨p, m, cause, hfirst, _, hplace, hroot⟩ := ((toFilterWithin_names_first_fault 2 (n [unknown])).2.1 _).mp hsame
  obtain rfl : [(.any, 1)] = p := Place.spelled_injective hplace
  obtain rfl : fault = cause := hroot
  exact ⟨herror, hsame, m, hfirst⟩

end FilterQuery.FilterNode

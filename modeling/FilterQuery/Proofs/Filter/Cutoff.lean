import Mathlib.Control.Monad.Basic
import FilterQuery.Filter.Json
import FilterQuery.Proofs.Filter.Fold
import FilterQuery.Proofs.Filter.Node

/-!
Limits on the size and the depth of a filter only cut off. Two readings of one text, the second with wider limits, go the same way
until the first meets a node that is too deep for it. If it never does, they end alike: with the same filter, or with the
same failure at the same place. -/

namespace FilterQuery

/-- Of two results, the first is a failure that comes from a limit on the depth, or they are the same. -/
def CutAt (max : Nat) {α : Type} (x y : Except Failure α) : Prop :=
  (∃ e, x = .error e ∧ e.root = .filterTooDeep max) ∨ x = y

namespace CutAt

variable {max : Nat} {α β : Type} {x y : Except Failure α}

theorem map (h : CutAt max x y) (f : α → β) : CutAt max (x.map f) (y.map f) := by
  obtain ⟨e, rfl, hroot⟩ | rfl := h
  · exact .inl ⟨e, rfl, hroot⟩
  · exact .inr rfl

theorem eq_of_ok {a : α} (h : CutAt max x y) (hx : x = .ok a) : y = .ok a := by
  obtain ⟨e, he, _⟩ | rfl := h
  · rw [he] at hx
    cases hx
  · exact hx

end CutAt

namespace FilterNode

variable {max : Nat} {limit : Option Nat} {depth : Nat}

theorem cutAt_toFiltersAt {ns : List FilterNode}
    (h : ∀ n ∈ ns, CutAt max (n.toFilterAt (some max) depth) (n.toFilterAt limit depth)) (k : Connective) (index : Nat) :
    CutAt max (toFiltersAt (some max) depth k index ns) (toFiltersAt limit depth k index ns) := by
  induction ns generalizing index with
  | nil => exact .inr rfl
  | cons n ns ih =>
      obtain ⟨hn, hns⟩ := List.forall_mem_cons.mp h
      rw [toFiltersAt, toFiltersAt]
      -- the first part that fails ends the work, so what comes after it is never compared
      obtain ⟨e, he, hroot⟩ | hsame := hn
      · exact .inl ⟨.inPart k.word index e, by rw [he], hroot⟩
      · rw [← hsame]
        cases n.toFilterAt (some max) depth with
        | error e => exact .inr rfl
        | ok f => exact (ih hns (index + 1)).map _

/-- With a wider limit, or with none, a node is turned into the same, unless one below it was too deep. -/
theorem cutAt_toFilterAt (hlimit : ∀ wider ∈ limit, max ≤ wider) (depth : Nat) (n : FilterNode) :
    CutAt max (n.toFilterAt (some max) depth) (n.toFilterAt limit depth) := by
  have hwider {depth : Nat} (hdepth : isTooDeep (some max) depth = false) : isTooDeep limit depth = false := by
    rw [isTooDeep_eq_false_iff] at hdepth ⊢
    intro wider hmem
    exact Nat.le_trans (hdepth max rfl) (hlimit wider hmem)
  induction depth, n using induction_within (some max) with
  | tooDeep depth n hdepth => exact .inl ⟨_, toFilterAt_of_isTooDeep hdepth n, rfl⟩
  | faulty depth n fault hdepth hkind =>
      rw [toFilterAt_of_kind_error hdepth hkind, toFilterAt_of_kind_error (hwider hdepth) hkind]
      exact .inr rfl
  | test depth field text value hdepth hkind =>
      rw [toFilterAt_of_kind_test hdepth hkind, toFilterAt_of_kind_test (hwider hdepth) hkind]
      exact .inr rfl
  | group depth k nodes hdepth hne ih =>
      rw [toFilterAt_ofParts hdepth k hne, toFilterAt_ofParts (hwider hdepth) k hne]
      exact (cutAt_toFiltersAt ih k 0).map _

/-! ### Failures of a conversion -/

/-- What a conversion can fail at, wherever it fails: the depth of a node, its shape, or the name of its operator. -/
theorem root_of_toFilterAt {n : FilterNode} {e : Failure} (h : n.toFilterAt limit depth = .error e) :
    e.root = .filterTooDeep (limit.getD 0) ∨ (∃ fault, e.root = .invalidShape fault) ∨
      ∃ text, e.root = .unknownOperator text := by
  induction depth, n using induction_within limit generalizing e with
  | tooDeep depth n hdepth =>
      rw [toFilterAt_of_isTooDeep hdepth] at h
      obtain rfl := Except.error.inj h
      exact .inl rfl
  | faulty depth n fault hdepth hkind =>
      rw [toFilterAt_of_kind_error hdepth hkind] at h
      obtain rfl := Except.error.inj h
      exact .inr (.inl ⟨fault, rfl⟩)
  | test depth field text value hdepth hkind =>
      rw [toFilterAt_of_kind_test hdepth hkind, toTest] at h
      split at h
      · cases h
      · obtain rfl := Except.error.inj h
        exact .inr (.inr ⟨text, rfl⟩)
  | group depth k nodes hdepth hne ih =>
      rw [toFilterAt_ofParts hdepth k hne, map_eq_error_iff] at h
      rw [toFiltersAt_eq_eachPart] at h
      obtain ⟨before, n, after, cause, rfl, _, hcause, rfl⟩ := exists_of_eachPart_eq_error h
      rw [Failure.root]
      exact ih n (by simp) hcause

end FilterNode

namespace Filter

variable {text : String} {b : Nat}

theorem parse_of_tooLong (h : b < text.utf8ByteSize) (d : Nat) : parse text b d = .error (.filterTooLong b) := by
  rw [parse, if_pos h]

theorem parse_ne_tooLong (h : text.utf8ByteSize ≤ b) (d max : Nat) : parse text b d ≠ .error (.filterTooLong max) := by
  intro hparse
  rw [parse, if_neg (Nat.not_lt.mpr h)] at hparse
  split at hparse
  · cases hparse
  · obtain hroot | ⟨fault, hroot⟩ | ⟨op, hroot⟩ := FilterNode.root_of_toFilterAt hparse <;> cases hroot

theorem cutAt_parse {b' d d' : Nat} (h : text.utf8ByteSize ≤ b) (hbytes : b ≤ b') (hdepth : d ≤ d') :
    CutAt d (parse text b d) (parse text b' d') := by
  rw [parse, parse, if_neg (Nat.not_lt.mpr h), if_neg (Nat.not_lt.mpr (Nat.le_trans h hbytes))]
  cases FilterNode.ofJson text with
  | error fault => exact .inr rfl
  | ok node => exact node.cutAt_toFilterAt (by simpa using hdepth) 1

/-- Limits never change an answer. A text is too long exactly when it has more bytes than the limit. Any other text is too
deep for the limit somewhere, or has the same filter or the same failure as under wider limits. -/
theorem parse_of_wider_limits (text : String) {b b' d d' : Nat} (hbytes : b ≤ b') (hdepth : d ≤ d') :
    (parse text b d = .error (.filterTooLong b) ↔ b < text.utf8ByteSize) ∧
      (text.utf8ByteSize ≤ b →
        (∃ e, parse text b d = .error e ∧ e.root = .filterTooDeep d) ∨ parse text b d = parse text b' d') ∧
      ∀ f, parse text b d = .ok f → parse text b' d' = .ok f := by
  refine ⟨⟨?_, fun h => parse_of_tooLong h d⟩, fun h => cutAt_parse h hbytes hdepth, ?_⟩
  · intro hparse
    obtain hlong | hfits := Nat.lt_or_ge b text.utf8ByteSize
    · exact hlong
    · exact absurd hparse (parse_ne_tooLong hfits d b)
  · intro f hparse
    obtain hlong | hfits := Nat.lt_or_ge b text.utf8ByteSize
    · rw [parse_of_tooLong hlong] at hparse
      cases hparse
    · exact (cutAt_parse hfits hbytes hdepth).eq_of_ok hparse

/-- A part without an operator of the list stands before one that is too deep: the narrow limits report the first, and so do
the wide ones. -/
theorem parse_of_failure_before_depth :
    let text := "\x7b\"or\":[\x7b\"op\":\"LIKE\"\x7d,\x7b\"and\":[\x7b\x7d]\x7d]\x7d"
    parse text 40 2 = .error (.inPart "OR" 0 (.unknownOperator "LIKE")) ∧ parse text 65536 32 = parse text 40 2 := by
  intro text
  have hfailure : parse text 40 2 = .error (.inPart "OR" 0 (.unknownOperator "LIKE")) := by
    -- filters cannot be compared by computation, failures can
    rw [← map_eq_error_iff (f := fun _ => ())]
    decide +kernel
  obtain ⟨_, hsame, _⟩ := parse_of_wider_limits text (by decide : 40 ≤ 65536) (by decide : 2 ≤ 32)
  refine ⟨hfailure, ?_⟩
  obtain ⟨e, he, hroot⟩ | hwide := hsame (by decide)
  · rw [hfailure] at he
    obtain rfl := Except.error.inj he
    cases hroot
  · exact hwide.symm

end Filter

end FilterQuery

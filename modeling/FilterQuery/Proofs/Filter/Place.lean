import Mathlib.Data.List.Lex
import FilterQuery.Proofs.Failure.Positions
import FilterQuery.Proofs.Filter.Fold

/-!
Places in trees of groups, and the first fault of a tree. A place is the way from the root down to a node: at each step the
group that is left and the index of the part that is entered. The order of places is that of their indices, number by number,
so a group comes before what is below it and an earlier part, with all that is below it, before a later one. A result reports
on a tree when it is there for a tree without faults, and else is the fault at the first place with the place around it.
Trees are given by the parts of each node, since filters and the nodes that callers write are both looked at in this way. -/

namespace FilterQuery

theorem Connective.word_injective : Function.Injective Connective.word := by
  intro k l h
  cases k <;> cases l <;> first | rfl | exact absurd h (by decide)

namespace Place

/-- Depth first, and from left to right. -/
def Before (p q : Place) : Prop :=
  p.map Prod.snd < q.map Prod.snd

/-- The place in the words of a failure. -/
def spelled (p : Place) : List (String × Nat) :=
  p.map fun step => (step.1.word, step.2)

instance (p q : Place) : Decidable (p.Before q) :=
  inferInstanceAs (Decidable (p.map Prod.snd < q.map Prod.snd))

theorem nil_before_cons (step : Connective × Nat) (p : Place) : Before [] (step :: p) :=
  List.nil_lt_cons _ _

theorem cons_before_cons_iff {k l : Connective} {i j : Nat} {p q : Place} :
    Before ((k, i) :: p) ((l, j) :: q) ↔ i < j ∨ i = j ∧ p.Before q :=
  List.cons_lt_cons_iff

theorem before_irrefl (p : Place) : ¬p.Before p :=
  lt_irrefl (p.map Prod.snd)

/-- A place can be told from its words. -/
theorem spelled_injective : Function.Injective spelled := by
  refine List.map_injective_iff.mpr ?_
  intro step step' h
  obtain ⟨hword, hindex⟩ := Prod.mk.inj h
  exact Prod.ext (Connective.word_injective hword) hindex

theorem Before.trans {p q r : Place} (h : p.Before q) (h' : q.Before r) : p.Before r :=
  lt_trans h h'

end Place

namespace Failure

def within (cause : Failure) (p : Place) : Failure :=
  p.foldr (fun step e => .inPart step.1.word step.2 e) cause

def place : Failure → List (String × Nat)
  | inPart connective i cause => (connective, i) :: cause.place
  | _ => []

theorem within_cons (cause : Failure) (k : Connective) (i : Nat) (p : Place) :
    cause.within ((k, i) :: p) = .inPart k.word i (cause.within p) := rfl

theorem place_within {cause : Failure} (h : cause.place = []) (p : Place) : (cause.within p).place = p.spelled := by
  induction p with
  | nil => exact h
  | cons step p ih =>
      obtain ⟨k, i⟩ := step
      rw [within_cons, place, ih, Place.spelled, Place.spelled, List.map_cons]

theorem within_eq_wrapped (cause : Failure) (p : Place) :
    cause.within p = cause.wrapped (p.map fun step => .part step.1.word step.2) := by
  rw [wrapped, List.foldr_map]
  rfl

theorem root_within (cause : Failure) (p : Place) : (cause.within p).root = cause.root := by
  rw [within_eq_wrapped, root_wrapped]

end Failure

section Trees

variable {ν : Type}

/-- A place leads from a node to one below it. `parts?` gives the parts of the nodes that are groups. -/
inductive Leads (parts? : ν → Option (Connective × List ν)) : ν → Place → ν → Prop
  | here (n : ν) : Leads parts? n [] n
  | down {n m g : ν} {k : Connective} {parts : List ν} {i : Nat} {p : Place} (hparts : parts? n = some (k, parts))
      (hi : parts[i]? = some m) (h : Leads parts? m p g) : Leads parts? n ((k, i) :: p) g

/-- A place leads to a node below one of several parts, the first of which has the given index. -/
inductive LeadsFrom (parts? : ν → Option (Connective × List ν)) (k : Connective) : Nat → List ν → Place → ν → Prop
  | head {i : Nat} {n g : ν} {ns : List ν} {p : Place} (h : Leads parts? n p g) :
      LeadsFrom parts? k i (n :: ns) ((k, i) :: p) g
  | tail {i : Nat} {n g : ν} {ns : List ν} {p : Place} (h : LeadsFrom parts? k (i + 1) ns p g) :
      LeadsFrom parts? k i (n :: ns) p g

/-- A fault that no other comes before, among the nodes that are reached. -/
structure FirstFault (reach : Place → ν → Prop) (fault : Place → ν → Failure → Prop) (p : Place) (n : ν)
    (cause : Failure) : Prop where
  reached : reach p n
  faulty : fault p n cause
  least : ∀ q m e, reach q m → fault q m e → q = p ∨ p.Before q

/-- There is a result where no node that is reached has a fault. Else the failure is the first fault, within its place. -/
inductive Reports (reach : Place → ν → Prop) (fault : Place → ν → Failure → Prop) {β : Type} : Except Failure β → Prop
  | ok (b : β) (h : ∀ p n e, reach p n → ¬fault p n e) : Reports reach fault (.ok b)
  | error {p : Place} {n : ν} {cause : Failure} (h : FirstFault reach fault p n cause) :
      Reports reach fault (.error (cause.within p))

variable {parts? : ν → Option (Connective × List ν)}

/-! ### Where places lead -/

theorem leads_nil_iff {n g : ν} : Leads parts? n [] g ↔ g = n := by
  constructor
  · intro h
    cases h
    rfl
  · rintro rfl
    exact .here g

/-- The indices of a place decide where it leads. -/
theorem Leads.unique {n g g' : ν} {p q : Place} (h : Leads parts? n p g) (h' : Leads parts? n q g')
    (hindices : p.map Prod.snd = q.map Prod.snd) : p = q ∧ g = g' := by
  induction h generalizing q with
  | here n =>
      obtain rfl : q = [] := by simpa using hindices.symm
      exact ⟨rfl, (leads_nil_iff.mp h').symm⟩
  | down hparts hi _ ih =>
      cases h' with
      | here => simp at hindices
      | down hparts' hi' h' =>
          obtain ⟨hindex, hrest⟩ := List.cons.inj hindices
          rw [hparts] at hparts'
          obtain ⟨rfl, rfl⟩ := Prod.mk.inj (Option.some.inj hparts')
          obtain rfl : _ = _ := hindex
          rw [hi] at hi'
          obtain rfl := Option.some.inj hi'
          obtain ⟨rfl, rfl⟩ := ih h' hrest
          exact ⟨rfl, rfl⟩

theorem Leads.eq_or_before {n g g' : ν} {p q : Place} (h : Leads parts? n p g) (h' : Leads parts? n q g') :
    p.Before q ∨ p = q ∨ q.Before p := by
  obtain hlt | heq | hgt := lt_trichotomy (p.map Prod.snd) (q.map Prod.snd)
  · exact .inl hlt
  · exact .inr (.inl (h.unique h' heq).1)
  · exact .inr (.inr hgt)

theorem leadsFrom_iff {k : Connective} {i : Nat} {ns : List ν} {p : Place} {g : ν} :
    LeadsFrom parts? k i ns p g ↔ ∃ j n q, ns[j]? = some n ∧ p = (k, i + j) :: q ∧ Leads parts? n q g := by
  constructor
  · intro h
    induction h with
    | head h => exact ⟨0, _, _, rfl, rfl, h⟩
    | tail _ ih =>
        obtain ⟨j, n, q, hj, rfl, hq⟩ := ih
        exact ⟨j + 1, n, q, hj, by rw [Nat.add_assoc, Nat.add_comm 1], hq⟩
  · rintro ⟨j, n, q, hj, rfl, hq⟩
    induction ns generalizing i j with
    | nil => cases hj
    | cons m ns ih =>
        cases j with
        | zero =>
            obtain rfl := Option.some.inj hj
            exact .head hq
        | succ j =>
            rw [Nat.add_comm j 1, ← Nat.add_assoc]
            exact .tail (ih j hj)

theorem leads_iff_of_parts {n g : ν} {k : Connective} {ns : List ν} (hparts : parts? n = some (k, ns)) {p : Place} :
    Leads parts? n p g ↔ p = [] ∧ g = n ∨ LeadsFrom parts? k 0 ns p g := by
  rw [leadsFrom_iff]
  simp only [Nat.zero_add]
  constructor
  · intro h
    cases h with
    | here => exact .inl ⟨rfl, rfl⟩
    | down hparts' hi h =>
        rw [hparts] at hparts'
        obtain ⟨rfl, rfl⟩ := Prod.mk.inj (Option.some.inj hparts')
        exact .inr ⟨_, _, _, hi, rfl, h⟩
  · rintro (⟨rfl, rfl⟩ | ⟨i, m, q, hi, rfl, h⟩)
    · exact .here _
    · exact .down hparts hi h

theorem leads_iff_of_none {n g : ν} (hparts : parts? n = none) {p : Place} : Leads parts? n p g ↔ p = [] ∧ g = n := by
  constructor
  · intro h
    cases h with
    | here => exact ⟨rfl, rfl⟩
    | down hparts' =>
        rw [hparts] at hparts'
        cases hparts'
  · rintro ⟨rfl, rfl⟩
    exact .here _

/-! ### First faults -/

section Faults

variable {fault : Place → ν → Failure → Prop} {k : Connective} {i : Nat} {n m : ν} {ns : List ν} {p : Place}
  {cause : Failure}

theorem before_of_leadsFrom {q : Place} (h : LeadsFrom parts? k (i + 1) ns q m) (p : Place) : Place.Before ((k, i) :: p) q := by
  obtain ⟨j, _, _, _, rfl, _⟩ := leadsFrom_iff.mp h
  rw [Place.cons_before_cons_iff]
  omega

theorem FirstFault.head (h : FirstFault (Leads parts? n) (fun p => fault ((k, i) :: p)) p m cause) (ns : List ν) :
    FirstFault (LeadsFrom parts? k i (n :: ns)) fault ((k, i) :: p) m cause := by
  refine ⟨.head h.reached, h.faulty, ?_⟩
  intro q g e hq hfault
  -- what is below the same part is ordered as it is below the part, and a later part comes later with all of it
  cases hq with
  | head hq =>
      obtain rfl | hbefore := h.least _ _ _ hq hfault
      · exact .inl rfl
      · exact .inr (Place.cons_before_cons_iff.mpr (.inr ⟨rfl, hbefore⟩))
  | tail hq => exact .inr (before_of_leadsFrom hq p)

theorem FirstFault.tail (hnone : ∀ p g e, Leads parts? n p g → ¬fault ((k, i) :: p) g e)
    (h : FirstFault (LeadsFrom parts? k (i + 1) ns) fault p m cause) :
    FirstFault (LeadsFrom parts? k i (n :: ns)) fault p m cause := by
  refine ⟨.tail h.reached, h.faulty, ?_⟩
  intro q g e hq hfault
  cases hq with
  | head hq => exact absurd hfault (hnone _ _ _ hq)
  | tail hq => exact h.least _ _ _ hq hfault

theorem FirstFault.here (h : fault [] n cause) : FirstFault (Leads parts? n) fault [] n cause := by
  refine ⟨.here n, h, ?_⟩
  intro q g e hq _
  cases q with
  | nil => exact .inl rfl
  | cons step q => exact .inr (Place.nil_before_cons step q)

theorem FirstFault.ofParts (hparts : parts? n = some (k, ns)) (hroot : ∀ e, ¬fault [] n e)
    (h : FirstFault (LeadsFrom parts? k 0 ns) fault p m cause) : FirstFault (Leads parts? n) fault p m cause := by
  refine ⟨(leads_iff_of_parts hparts).mpr (.inr h.reached), h.faulty, ?_⟩
  intro q g e hq hfault
  obtain ⟨rfl, rfl⟩ | hq := (leads_iff_of_parts hparts).mp hq
  · exact absurd hfault (hroot e)
  · exact h.least _ _ _ hq hfault

/-- A tree has at most one first fault, where a node at a place has at most one fault. -/
theorem FirstFault.unique (hfault : ∀ p n e e', fault p n e → fault p n e' → e = e') {q : Place} {g : ν} {cause' : Failure}
    (h : FirstFault (Leads parts? n) fault p m cause) (h' : FirstFault (Leads parts? n) fault q g cause') :
    p = q ∧ cause = cause' := by
  obtain rfl : p = q := by
    obtain heq | hbefore := h.least _ _ _ h'.reached h'.faulty
    · exact heq.symm
    · obtain heq | hafter := h'.least _ _ _ h.reached h.faulty
      · exact heq
      · exact absurd (hbefore.trans hafter) (Place.before_irrefl p)
  obtain ⟨_, rfl⟩ := h.reached.unique h'.reached rfl
  exact ⟨rfl, hfault p m cause cause' h.faulty h'.faulty⟩

end Faults

/-! ### Results that report on a tree -/

namespace Reports

variable {α β : Type} {reach : Place → ν → Prop} {fault : Place → ν → Failure → Prop} {x : Except Failure α} {n : ν}
  {k : Connective} {ns : List ν}

theorem map (h : Reports reach fault x) (f : α → β) : Reports reach fault (x.map f) := by
  cases h with
  | ok a h => exact .ok (f a) h
  | error h => exact .error h

theorem here {cause : Failure} (h : fault [] n cause) :
    Reports (Leads parts? n) fault (.error cause : Except Failure α) :=
  .error (FirstFault.here h)

theorem ofParts (hparts : parts? n = some (k, ns)) (hroot : ∀ e, ¬fault [] n e)
    (h : Reports (LeadsFrom parts? k 0 ns) fault x) : Reports (Leads parts? n) fault x := by
  cases h with
  | error h => exact .error (h.ofParts hparts hroot)
  | ok a h =>
      refine .ok a ?_
      intro p g e hp
      obtain ⟨rfl, rfl⟩ | hp := (leads_iff_of_parts hparts).mp hp
      · exact hroot e
      · exact h p g e hp

theorem congr (h : Reports reach fault x) {fault' : Place → ν → Failure → Prop}
    (hfault : ∀ p n e, reach p n → (fault p n e ↔ fault' p n e)) : Reports reach fault' x := by
  cases h with
  | ok a h => exact .ok a fun p n e hp => mt (hfault p n e hp).mpr (h p n e hp)
  | error h =>
      refine .error ⟨h.reached, (hfault _ _ _ h.reached).mp h.faulty, ?_⟩
      intro q m e hq hm
      exact h.least q m e hq ((hfault q m e hq).mpr hm)

theorem head {i : Nat} {e : Failure}
    (h : Reports (Leads parts? n) (fun p => fault ((k, i) :: p)) (.error e : Except Failure α)) (ns : List ν) :
    Reports (LeadsFrom parts? k i (n :: ns)) fault (.error (.inPart k.word i e) : Except Failure β) := by
  cases h with
  | error h => exact .error (h.head ns)

theorem tail {i : Nat} (hnone : ∀ p m e, Leads parts? n p m → ¬fault ((k, i) :: p) m e)
    (h : Reports (LeadsFrom parts? k (i + 1) ns) fault x) : Reports (LeadsFrom parts? k i (n :: ns)) fault x := by
  cases h with
  | error h => exact .error (h.tail hnone)
  | ok a h =>
      refine .ok a ?_
      intro p m e hp
      cases hp with
      | head hp => exact hnone _ m e hp
      | tail hp => exact h p m e hp

theorem exists_ok_iff (h : Reports reach fault x) : (∃ a, x = .ok a) ↔ ∀ p n e, reach p n → ¬fault p n e := by
  cases h with
  | ok a h => exact ⟨fun _ => h, fun _ => ⟨a, rfl⟩⟩
  | error h =>
      constructor
      · rintro ⟨_, ⟨⟩⟩
      · intro hnone
        exact absurd h.faulty (hnone _ _ _ h.reached)

/-- Where a step reports on each part, the loop over the parts reports on all of them. -/
theorem eachPart {step : ν → Except Failure α} {below : Place → ν → Failure → Prop}
    (hbelow : ∀ i p n e, fault ((k, i) :: p) n e ↔ below p n e)
    (h : ∀ n ∈ ns, Reports (Leads parts? n) below (step n)) (i : Nat) :
    Reports (LeadsFrom parts? k i ns) fault (eachPart step k i ns) := by
  induction ns generalizing i with
  | nil => exact .ok _ (by rintro p n e ⟨⟩)
  | cons n ns ih =>
      obtain ⟨hn, hns⟩ := List.forall_mem_cons.mp h
      have hpart : Reports (Leads parts? n) (fun p => fault ((k, i) :: p)) (step n) :=
        hn.congr fun p m e _ => (hbelow i p m e).symm
      rw [FilterQuery.eachPart]
      cases hstep : step n with
      | error e =>
          rw [hstep] at hpart
          exact hpart.head ns
      | ok a => exact ((ih hns (i + 1)).tail (hpart.exists_ok_iff.mp ⟨a, hstep⟩)).map _

theorem exists_error_iff (h : Reports reach fault x) : (∃ e, x = .error e) ↔ ∃ p n e, reach p n ∧ fault p n e := by
  cases h with
  | ok a h =>
      constructor
      · rintro ⟨_, ⟨⟩⟩
      · rintro ⟨p, n, e, hp, hfault⟩
        exact absurd hfault (h p n e hp)
  | error h => exact ⟨fun _ => ⟨_, _, _, h.reached, h.faulty⟩, fun _ => ⟨_, rfl⟩⟩

theorem exists_firstFault {e : Failure} (h : Reports reach fault x) (hx : x = .error e) :
    ∃ p n cause, FirstFault reach fault p n cause ∧ e = cause.within p := by
  cases h with
  | ok a => cases hx
  | error h => exact ⟨_, _, _, h, (Except.error.inj hx).symm⟩

theorem eq_error_iff (h : Reports (Leads parts? n) fault x) (hfault : ∀ p n e e', fault p n e → fault p n e' → e = e')
    {e : Failure} : x = .error e ↔ ∃ p m cause, FirstFault (Leads parts? n) fault p m cause ∧ e = cause.within p := by
  constructor
  · exact h.exists_firstFault
  · rintro ⟨p, m, cause, hfirst, rfl⟩
    obtain ⟨e, hx⟩ := h.exists_error_iff.mpr ⟨p, m, cause, hfirst.reached, hfirst.faulty⟩
    obtain ⟨q, m', cause', hfirst', rfl⟩ := h.exists_firstFault hx
    obtain ⟨rfl, rfl⟩ := hfirst.unique hfault hfirst'
    exact hx

/-- Where faults have no place of their own, the failure spells the place of the first fault, and its root is the fault. -/
theorem eq_error_iff_spelled (h : Reports (Leads parts? n) fault x)
    (hfault : ∀ p n e e', fault p n e → fault p n e' → e = e') (hbare : ∀ p n e, fault p n e → e.place = [] ∧ e.root = e)
    {e : Failure} : x = .error e ↔ ∃ p m cause,
      FirstFault (Leads parts? n) fault p m cause ∧ e = cause.within p ∧ e.place = p.spelled ∧ e.root = cause := by
  rw [h.eq_error_iff hfault]
  constructor
  · rintro ⟨p, m, cause, hfirst, rfl⟩
    obtain ⟨hplace, hroot⟩ := hbare p m cause hfirst.faulty
    exact ⟨p, m, cause, hfirst, rfl, Failure.place_within hplace p, (Failure.root_within cause p).trans hroot⟩
  · rintro ⟨p, m, cause, hfirst, he, _⟩
    exact ⟨p, m, cause, hfirst, he⟩

end Reports

end Trees

def Filter.parts? : Filter → Option (Connective × List Filter)
  | test _ => none
  | group k parts => some (k, parts)

end FilterQuery

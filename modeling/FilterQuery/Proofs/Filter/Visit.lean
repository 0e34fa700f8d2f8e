import FilterQuery.Filter.Visit
import FilterQuery.Proofs.Filter.Place

/-!
The order in which a filter is visited, whatever the builder remembers. Tests are asked about depth first and from left to
right, none of them twice, and nothing is asked behind the first node that fails. -/

namespace FilterQuery

/-! ### Traces -/

namespace Filter

variable {α : Type} {test : Test → Except Failure α} {join : Connective → List α → α}

theorem traceParts_snd (k : Connective) {fs : List Filter} (h : ∀ f ∈ fs, (f.trace test join).2 = f.build test join)
    (index : Nat) : (traceParts test join k index fs).2 = buildParts test join k index fs := by
  induction fs generalizing index with
  | nil => rfl
  | cons f fs ih =>
      obtain ⟨hf, hfs⟩ := List.forall_mem_cons.mp h
      rw [traceParts, buildParts, ← hf, ← ih hfs (index + 1)]
      obtain ⟨seen, built⟩ := f.trace test join
      cases built <;> rfl

/-- Looking on at the tests does not change what is built. -/
theorem trace_snd (test : Test → Except Failure α) (join : Connective → List α → α) (f : Filter) :
    (f.trace test join).2 = f.build test join := by
  induction f using induction with
  | test t => rfl
  | group k parts ih =>
      cases parts with
      | nil => rfl
      | cons f fs =>
          rw [trace, build, ← traceParts_snd k ih 0]

end Filter

namespace Builder

variable {σ α : Type}

theorem traceParts_eq_visitParts (test : Test → Except Failure α) (join : Connective → List α → α) (k : Connective)
    (fs : List Filter) (h : ∀ f ∈ fs, ∀ s, f.trace test join =
      (((ofRules test join).visit f s).calls.map Call.test, ((ofRules test join).visit f s).built))
    (index : Nat) (s : Unit) :
    Filter.traceParts test join k index fs = (((ofRules test join).visitParts k index fs s).calls.map Call.test,
      ((ofRules test join).visitParts k index fs s).built) := by
  induction fs generalizing index s with
  | nil => rfl
  | cons f fs ih =>
      obtain ⟨hf, hfs⟩ := List.forall_mem_cons.mp h
      have htests (calls : List (Call α)) : (calls.map (Call.inPart k index)).map Call.test = calls.map Call.test := by
        rw [List.map_map]
        rfl
      rw [Filter.traceParts, visitParts, hf s]
      cases hbuilt : ((ofRules test join).visit f s).built with
      | error e => simp [htests]
      | ok a => simp [htests, ih hfs (index + 1) ((ofRules test join).visit f s).memory]

/-- A trace is what a builder without a memory is asked, and what it makes. -/
theorem trace_eq_visit (test : Test → Except Failure α) (join : Connective → List α → α) (f : Filter) (s : Unit) :
    f.trace test join =
      (((ofRules test join).visit f s).calls.map Call.test, ((ofRules test join).visit f s).built) := by
  induction f using Filter.induction generalizing s with
  | test t => rfl
  | group k parts ih =>
      cases parts with
      | nil => rfl
      | cons f fs =>
          rw [Filter.trace, traceParts_eq_visitParts test join k (f :: fs) (fun g hg s => ih g hg s) 0 s]
          rfl

end Builder

/-- A node that fails in a visit: a group without parts, or a test that was answered with a failure. -/
inductive FailsIn {α : Type} (calls : List (Call α)) (p : Place) : Filter → Failure → Prop
  | empty (k : Connective) : FailsIn calls p (.group k []) (.invalidShape (.emptyGroup k))
  | call (c : Call α) (hc : c ∈ calls) (hplace : c.place = p) {e : Failure} (h : c.answer = .error e) :
      FailsIn calls p (.test c.test) e

/-- A visit that goes to the tests that are reached, in their order, up to the first node that fails, and reports this
node. -/
structure Orderly {σ α β : Type} (reach : Place → Filter → Prop) (v : Visit σ α β) : Prop where
  reached : ∀ c ∈ v.calls, reach c.place (.test c.test)
  inOrder : v.calls.Pairwise fun c d => c.place.Before d.place
  reports : Reports reach (FailsIn v.calls) v.built
  asked : ∀ p t, reach p (.test t) → (∀ q g e, reach q g → FailsIn v.calls q g e → ¬q.Before p) →
    ∃ c ∈ v.calls, c.place = p
  stops : ∀ c ∈ v.calls, ∀ q g e, reach q g → FailsIn v.calls q g e → ¬q.Before c.place

section Orderly

variable {σ α β γ : Type} {calls more : List (Call α)} {k : Connective} {index : Nat}

theorem FailsIn.congr {p q : Place} {g : Filter} {e : Failure} (h : FailsIn calls p g e)
    (hcalls : ∀ c ∈ calls, c.place = p → ∃ d ∈ more, d.place = q ∧ d.test = c.test ∧ d.answer = c.answer) :
    FailsIn more q g e := by
  cases h with
  | empty k => exact .empty k
  | call c hc hplace h =>
      obtain ⟨d, hd, hq, htest, hanswer⟩ := hcalls c hc hplace
      rw [← htest]
      exact .call d hd hq (hanswer.trans h)

theorem failsIn_head_iff (hmore : ∀ d ∈ more, ∀ p, d.place ≠ (k, index) :: p) {p : Place} {g : Filter} {e : Failure} :
    FailsIn (calls.map (Call.inPart k index) ++ more) ((k, index) :: p) g e ↔ FailsIn calls p g e := by
  constructor
  · intro h
    refine h.congr ?_
    intro c hc hplace
    obtain hc | hc := List.mem_append.mp hc
    · obtain ⟨d, hd, rfl⟩ := List.mem_map.mp hc
      exact ⟨d, hd, (List.cons.inj hplace).2, rfl, rfl⟩
    · exact absurd hplace (hmore c hc p)
  · intro h
    refine h.congr ?_
    intro c hc hplace
    refine ⟨c.inPart k index, List.mem_append_left more (List.mem_map_of_mem hc), ?_, rfl, rfl⟩
    rw [Call.inPart, hplace]

theorem failsIn_tail_iff {p : Place} (hp : ∀ q, p ≠ (k, index) :: q) {g : Filter} {e : Failure} :
    FailsIn (calls.map (Call.inPart k index) ++ more) p g e ↔ FailsIn more p g e := by
  constructor
  · intro h
    refine h.congr ?_
    intro c hc hplace
    obtain hc | hc := List.mem_append.mp hc
    · obtain ⟨d, _, rfl⟩ := List.mem_map.mp hc
      exact absurd hplace.symm (hp d.place)
    · exact ⟨c, hc, hplace, rfl, rfl⟩
  · intro h
    refine h.congr ?_
    intro c hc hplace
    exact ⟨c, List.mem_append_right _ hc, hplace, rfl, rfl⟩

theorem ne_cons_of_leadsFrom {fs : List Filter} {p : Place} {g : Filter}
    (h : LeadsFrom Filter.parts? k (index + 1) fs p g) (q : Place) : p ≠ (k, index) :: q := by
  rintro rfl
  exact Place.before_irrefl _ (before_of_leadsFrom h q)

namespace Orderly

variable {v : Visit σ α α} {f : Filter} {fs : List Filter}

theorem built {reach : Place → Filter → Prop} {w : Visit σ α β} (h : Orderly reach w) (join : β → γ) (s : σ) :
    Orderly reach (⟨w.calls, w.built.map join, s⟩ : Visit σ α γ) :=
  ⟨h.reached, h.inOrder, h.reports.map join, h.asked, h.stops⟩

theorem ofParts (h : Orderly (LeadsFrom Filter.parts? k 0 (f :: fs)) v) :
    Orderly (Leads Filter.parts? (.group k (f :: fs))) v := by
  have hbelow {p : Place} {g : Filter} (hp : LeadsFrom Filter.parts? k 0 (f :: fs) p g) :
      Leads Filter.parts? (.group k (f :: fs)) p g := (leads_iff_of_parts rfl).mpr (.inr hp)
  -- the group itself is no test and has parts, so it is not asked about and does not fail
  have hroot {e : Failure} {p : Place} : ¬FailsIn v.calls p (.group k (f :: fs)) e := by rintro ⟨⟩
  refine ⟨fun c hc => hbelow (h.reached c hc), h.inOrder, h.reports.ofParts rfl fun e => hroot, ?_, ?_⟩
  · intro p t hp hnone
    obtain ⟨_, ⟨⟩⟩ | hp := (leads_iff_of_parts rfl).mp hp
    exact h.asked p t hp fun q g e hq => hnone q g e (hbelow hq)
  · intro c hc q g e hq hfails
    obtain ⟨rfl, rfl⟩ | hq := (leads_iff_of_parts rfl).mp hq
    · exact absurd hfails hroot
    · exact h.stops c hc q g e hq hfails

theorem cons (hv : Orderly (Leads Filter.parts? f) v) {built : Except Failure β} (s : σ)
    (hreached : ∀ d ∈ more, LeadsFrom Filter.parts? k (index + 1) fs d.place (.test d.test))
    (hinOrder : more.Pairwise fun c d => c.place.Before d.place)
    (hreports : Reports (LeadsFrom Filter.parts? k index (f :: fs))
      (FailsIn (v.calls.map (Call.inPart k index) ++ more)) built)
    (hasked : ∀ p t, LeadsFrom Filter.parts? k (index + 1) fs p (.test t) →
      (∀ q g e, LeadsFrom Filter.parts? k index (f :: fs) q g →
        FailsIn (v.calls.map (Call.inPart k index) ++ more) q g e → ¬q.Before p) → ∃ d ∈ more, d.place = p)
    (hstops : ∀ d ∈ more, ∀ q g e, LeadsFrom Filter.parts? k index (f :: fs) q g →
      FailsIn (v.calls.map (Call.inPart k index) ++ more) q g e → ¬q.Before d.place) :
    Orderly (LeadsFrom Filter.parts? k index (f :: fs))
      (⟨v.calls.map (Call.inPart k index) ++ more, built, s⟩ : Visit σ α β) := by
  have hhead {p : Place} {g : Filter} {e : Failure} :
      FailsIn (v.calls.map (Call.inPart k index) ++ more) ((k, index) :: p) g e ↔ FailsIn v.calls p g e :=
    failsIn_head_iff fun d hd => ne_cons_of_leadsFrom (hreached d hd)
  refine ⟨?_, ?_, hreports, ?_, ?_⟩
  · intro c hc
    obtain hc | hc := List.mem_append.mp hc
    · obtain ⟨d, hd, rfl⟩ := List.mem_map.mp hc
      exact .head (hv.reached d hd)
    · exact .tail (hreached c hc)
  · rw [List.pairwise_append, List.pairwise_map]
    refine ⟨?_, hinOrder, ?_⟩
    · exact hv.inOrder.imp fun h => Place.cons_before_cons_iff.mpr (.inr ⟨rfl, h⟩)
    · intro c hc d hd
      obtain ⟨c, _, rfl⟩ := List.mem_map.mp hc
      exact before_of_leadsFrom (hreached d hd) c.place
  · intro p t hp hnone
    cases hp with
    | head hp =>
        obtain ⟨c, hc, rfl⟩ := hv.asked _ t hp fun q g e hq hfails hbefore =>
          hnone _ g e (.head hq) (hhead.mpr hfails) (Place.cons_before_cons_iff.mpr (.inr ⟨rfl, hbefore⟩))
        exact ⟨c.inPart k index, List.mem_append_left more (List.mem_map_of_mem hc), rfl⟩
    | tail hp =>
        obtain ⟨d, hd, hplace⟩ := hasked p t hp hnone
        exact ⟨d, List.mem_append_right _ hd, hplace⟩
  · intro c hc q g e hq hfails hbefore
    obtain hc | hc := List.mem_append.mp hc
    · obtain ⟨d, hd, rfl⟩ := List.mem_map.mp hc
      cases hq with
      | head hq =>
          obtain hlt | ⟨_, hbefore⟩ := Place.cons_before_cons_iff.mp hbefore
          · exact absurd hlt (Nat.lt_irrefl index)
          · exact hv.stops d hd _ g e hq (hhead.mp hfails) hbefore
      | tail hq => exact Place.before_irrefl _ ((before_of_leadsFrom hq d.place).trans hbefore)
    · exact hstops c hc q g e hq hfails hbefore

/-- A part that fails ends the visit of a group. -/
theorem stop (hv : Orderly (Leads Filter.parts? f) v) {e : Failure} (hbuilt : v.built = .error e) (s : σ) :
    Orderly (LeadsFrom Filter.parts? k index (f :: fs))
      (⟨v.calls.map (Call.inPart k index), .error (.inPart k.word index e), s⟩ : Visit σ α β) := by
  have hpart : Reports (Leads Filter.parts? f)
      (fun p => FailsIn (v.calls.map (Call.inPart k index) ++ []) ((k, index) :: p)) v.built :=
    hv.reports.congr fun p g e _ => (failsIn_head_iff (by simp)).symm
  rw [hbuilt] at hpart
  rw [← List.append_nil (v.calls.map _)]
  refine cons hv s (by simp) .nil (hpart.head fs) ?_ (by simp)
  -- what fails in the part comes before the parts that follow, so they need not be asked about
  intro q t hq hnone
  obtain ⟨p, g, cause, hp, hfails⟩ := hpart.exists_error_iff.mp ⟨e, rfl⟩
  exact absurd (before_of_leadsFrom hq p) (hnone _ g cause (.head hp) hfails)

/-- Behind a part that does not fail the visit of a group goes on. -/
theorem next (hv : Orderly (Leads Filter.parts? f) v) {a : α} (hbuilt : v.built = .ok a) {w : Visit σ α β}
    (hw : Orderly (LeadsFrom Filter.parts? k (index + 1) fs) w) (join : β → γ) (s : σ) :
    Orderly (LeadsFrom Filter.parts? k index (f :: fs))
      (⟨v.calls.map (Call.inPart k index) ++ w.calls, w.built.map join, s⟩ : Visit σ α γ) := by
  have hnone : ∀ p g e, Leads Filter.parts? f p g →
      ¬FailsIn (v.calls.map (Call.inPart k index) ++ w.calls) ((k, index) :: p) g e := by
    intro p g e hp hfails
    rw [failsIn_head_iff fun d hd => ne_cons_of_leadsFrom (hw.reached d hd)] at hfails
    have hreports := hv.reports
    rw [hbuilt] at hreports
    cases hreports with
    | ok _ hok => exact hok p g e hp hfails
  have htail {p : Place} {g : Filter} {e : Failure} (hp : LeadsFrom Filter.parts? k (index + 1) fs p g) :
      FailsIn (v.calls.map (Call.inPart k index) ++ w.calls) p g e ↔ FailsIn w.calls p g e :=
    failsIn_tail_iff (ne_cons_of_leadsFrom hp)
  refine cons hv s hw.reached hw.inOrder ?_ ?_ ?_
  · exact ((hw.reports.congr fun p g e hp => (htail hp).symm).tail hnone).map join
  · intro p t hp hbefore
    exact hw.asked p t hp fun q g e hq hfails => hbefore q g e (.tail hq) ((htail hq).mpr hfails)
  · intro c hc q g e hq hfails
    cases hq with
    | head hq => exact absurd hfails (hnone _ g e hq)
    | tail hq => exact hw.stops c hc q g e hq ((htail hq).mp hfails)

end Orderly

end Orderly

namespace Builder

variable {σ α : Type} (b : Builder σ α)

theorem orderly_visitParts (k : Connective) {fs : List Filter}
    (h : ∀ f ∈ fs, ∀ s, Orderly (Leads Filter.parts? f) (b.visit f s)) (index : Nat) (s : σ) :
    Orderly (LeadsFrom Filter.parts? k index fs) (b.visitParts k index fs s) := by
  induction fs generalizing index s with
  | nil => exact ⟨by rintro c ⟨⟩, .nil, .ok [] (by rintro p g e ⟨⟩), by rintro p t ⟨⟩, by rintro c ⟨⟩⟩
  | cons f fs ih =>
      obtain ⟨hf, hfs⟩ := List.forall_mem_cons.mp h
      rw [visitParts]
      cases hbuilt : (b.visit f s).built with
      | error e => exact (hf s).stop hbuilt _
      | ok a => exact (hf s).next hbuilt (ih hfs (index + 1) _) (a :: ·) _

/-- Every visit is orderly, whatever the builder makes of what it is asked and whatever it remembers. -/
theorem orderly_visit (f : Filter) (s : σ) : Orderly (Leads Filter.parts? f) (b.visit f s) := by
  induction f using Filter.induction generalizing s with
  | test t =>
      have hroot {p : Place} {g : Filter} : Leads Filter.parts? (.test t) p g ↔ p = [] ∧ g = .test t :=
        leads_iff_of_none rfl
      refine ⟨?_, ?_, ?_, ?_, ?_⟩
      · intro c hc
        obtain rfl := List.mem_singleton.mp hc
        exact .here _
      · exact List.pairwise_singleton _ _
      · rw [visit]
        generalize (b.test t s).1 = answer
        cases answer with
        | error e => exact .here (.call ⟨[], t, .error e⟩ (List.mem_singleton.mpr rfl) rfl rfl)
        | ok a =>
            refine .ok a ?_
            intro p g e hp hfails
            obtain ⟨rfl, rfl⟩ := hroot.mp hp
            cases hfails with
            | call c hc _ h =>
                rw [List.mem_singleton.mp hc] at h
                cases h
      · intro p t' hp _
        obtain ⟨rfl, _⟩ := hroot.mp hp
        exact ⟨_, List.mem_singleton.mpr rfl, rfl⟩
      · intro c hc q g e hq _
        obtain rfl := List.mem_singleton.mp hc
        obtain ⟨rfl, _⟩ := hroot.mp hq
        exact Place.before_irrefl []
  | group k parts ih =>
      cases parts with
      | nil =>
          refine ⟨by rintro c ⟨⟩, .nil, .here (.empty k), ?_, by rintro c ⟨⟩⟩
          intro p t hp
          obtain ⟨_, ⟨⟩⟩ | hp := (leads_iff_of_parts rfl).mp hp
          cases hp
      | cons f fs =>
          have hparts := b.orderly_visitParts k (fun g hg => ih g hg) 0 (b.enter k (f :: fs) s)
          rw [visit]
          exact (hparts.built _ _).ofParts

/-- Every builder is asked about tests of the filter only, in their order and none of them twice. When something is built, it
was asked about every test, and nothing failed. Otherwise it was asked about the tests in front of the first node that fails,
and about this node if it is a test, but about none behind it. A trace is an instance: it is what a builder without a memory
is asked, and what it makes, which is what is built by the rules that it follows. -/
theorem visit_in_order (f : Filter) (s : σ) :
    let v := b.visit f s
    (∀ c ∈ v.calls, Leads Filter.parts? f c.place (.test c.test)) ∧
      v.calls.Pairwise (fun c d => c.place.Before d.place) ∧
      (∀ a, v.built = .ok a → (∀ p t, Leads Filter.parts? f p (.test t) → ∃ c ∈ v.calls, c.place = p) ∧
        ∀ p g e, Leads Filter.parts? f p g → ¬FailsIn v.calls p g e) ∧
      (∀ e, v.built = .error e → ∃ p g cause, FirstFault (Leads Filter.parts? f) (FailsIn v.calls) p g cause ∧
        e = cause.within p ∧
          ∀ q t, Leads Filter.parts? f q (.test t) → ((∃ c ∈ v.calls, c.place = q) ↔ q = p ∨ q.Before p)) ∧
      ∀ (test : Test → Except Failure α) (join : Connective → List α → α), f.trace test join =
        (((ofRules test join).visit f ()).calls.map Call.test, ((ofRules test join).visit f ()).built) ∧
          (f.trace test join).2 = f.build test join := by
  intro v
  have hv : Orderly (Leads Filter.parts? f) v := b.orderly_visit f s
  refine ⟨hv.reached, hv.inOrder, ?_, ?_, fun test join => ⟨trace_eq_visit test join f (), f.trace_snd test join⟩⟩
  · intro a hbuilt
    have hnone := hv.reports.exists_ok_iff.mp ⟨a, hbuilt⟩
    exact ⟨fun p t hp => hv.asked p t hp fun q g e hq hfails => absurd hfails (hnone q g e hq), hnone⟩
  · intro e hbuilt
    obtain ⟨p, g, cause, hfirst, he⟩ := hv.reports.exists_firstFault hbuilt
    refine ⟨p, g, cause, hfirst, he, ?_⟩
    intro q t hq
    constructor
    · rintro ⟨c, hc, rfl⟩
      obtain hbefore | rfl | hafter := hq.eq_or_before hfirst.reached
      · exact .inr hbefore
      · exact .inl rfl
      · exact absurd hafter (hv.stops c hc p g cause hfirst.reached hfirst.faulty)
    · intro hplace
      refine hv.asked q t hq ?_
      intro r h e' hr hfails hbefore
      -- what fails is at the first place or behind it, so it is not in front of a test that is
      have hnot : ¬r.Before p := by
        intro hrp
        obtain rfl | hpr := hfirst.least r h e' hr hfails
        · exact Place.before_irrefl r hrp
        · exact Place.before_irrefl r (hrp.trans hpr)
      obtain rfl | hqp := hplace
      · exact hnot hbefore
      · exact hnot (hbefore.trans hqp)

/-- A builder that refuses a field it has met before. What stands behind the second `a` is not visited, though it would be
refused as well. -/
theorem visit_in_order_of_repeated_field :
    let b : Builder (List String) Unit :=
      { test := fun t seen => (if t.field ∈ seen then .error (.invalidIdentifier t.field) else .ok (), seen ++ [t.field])
        enter := fun _ _ seen => seen
        join := fun _ _ _ seen => ((), seen) }
    let test (field : String) : Filter := .test ⟨field, .isNull, none⟩
    let f : Filter := .group .all [test "a", .group .any [test "b", test "a", test "b"], .group .any []]
    let v := b.visit f []
    let place : Place := [(.all, 1), (.any, 1)]
    v.memory = ["a", "b", "a"] ∧
      (∃ g, FirstFault (Leads Filter.parts? f) (FailsIn v.calls) place g (.invalidIdentifier "a")) ∧
      ¬∃ c ∈ v.calls, c.place = [(.all, 1), (.any, 2)] := by
  intro b test f v place
  have herror : v.built = .error (.inPart "AND" 1 (.inPart "OR" 1 (.invalidIdentifier "a"))) := rfl
  obtain ⟨_, _, _, hstop, _⟩ := b.visit_in_order f []
  obtain ⟨p, g, cause, hfirst, hcause, hvisited⟩ := hstop _ herror
  obtain ⟨rfl, rfl⟩ : p = place ∧ cause = .invalidIdentifier "a" := by
    cases hfirst.faulty with
    | empty k =>
        have hroot := congrArg Failure.root hcause
        rw [Failure.root_within] at hroot
        cases hroot
    | call c hc hplace h =>
        have hcalls : c ∈ [⟨[(.all, 0)], ⟨"a", .isNull, none⟩, .ok ()⟩,
          ⟨[(.all, 1), (.any, 0)], ⟨"b", .isNull, none⟩, .ok ()⟩,
          ⟨place, ⟨"a", .isNull, none⟩, .error (.invalidIdentifier "a")⟩] := hc
        simp only [List.mem_cons, List.not_mem_nil, or_false] at hcalls
        obtain rfl | rfl | rfl := hcalls
        · cases h
        · cases h
        · exact ⟨hplace.symm, (Except.error.inj h).symm⟩
  refine ⟨rfl, ⟨g, hfirst⟩, ?_⟩
  have hleads : Leads Filter.parts? f [(.all, 1), (.any, 2)] (test "b") := .down rfl rfl (.down rfl rfl (.here _))
  rw [hvisited _ _ hleads]
  decide

end Builder

end FilterQuery

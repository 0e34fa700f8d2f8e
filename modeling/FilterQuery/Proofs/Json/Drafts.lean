import FilterQuery.Proofs.Failure.Steps
import FilterQuery.Proofs.Json.Reader

/-!
Reading members into a draft. A draft has a place for each kind of content, and a member that is read fills the place of its
kind. When no two members are of one kind, reading them all ends well exactly when each of them can be read, and every place
then holds what the member of its kind gave. So the order of the members does not matter, nor in what state each is read.
The members of an object are read so by their names: a name stands for a kind, and its place must not be taken. -/

namespace FilterQuery.Json

/-- A draft as places: what is put is found again at the place of its kind, and the other places stay as they are. -/
structure Places (σ κ γ : Type) where
  get? : σ → κ → Option γ
  put : σ → γ → σ
  kind : γ → κ
  get?_put_self : ∀ d c, get? (put d c) (kind c) = some c
  get?_put_of_ne : ∀ d c k, k ≠ kind c → get? (put d c) k = get? d k

namespace Places

variable {σ κ γ β ε : Type} (P : Places σ κ γ)

/-- The draft after a member that gives some content, or none. -/
def add (d : σ) : Option γ → σ
  | none => d
  | some c => P.put d c

/-- A step reads a member into a draft: it adds what the member gives, if the place for it is free. -/
structure Reads (step : σ → β → Except ε σ) (gives : β → Except ε (Option γ)) : Prop where
  sound : ∀ {d m d'}, step d m = .ok d' → ∃ o, gives m = .ok o ∧ d' = P.add d o
  complete : ∀ {d m o}, gives m = .ok o → (∀ c ∈ o, P.get? d (P.kind c) = none) → step d m = .ok (P.add d o)

/-- No two members give content of one kind. -/
def Apart (gives : β → Except ε (Option γ)) (members : List β) : Prop :=
  members.Pairwise fun m m' => ∀ c c', gives m = .ok (some c) → gives m' = .ok (some c') → P.kind c ≠ P.kind c'

variable {P} {step : σ → β → Except ε σ} {gives : β → Except ε (Option γ)} {members : List β} {d d' : σ}

theorem get?_add_of_ne {o : Option γ} {k : κ} (h : ∀ c ∈ o, k ≠ P.kind c) : P.get? (P.add d o) k = P.get? d k := by
  cases o with
  | none => rfl
  | some c => exact P.get?_put_of_ne d c k (h c rfl)

/-- What a place holds in the end it held before, or a member gave it. -/
theorem Reads.get?_foldlM (hreads : P.Reads step gives) (h : members.foldlM step d = .ok d') {k : κ} {c : γ}
    (hc : P.get? d' k = some c) : P.get? d k = some c ∨ ∃ m ∈ members, gives m = .ok (some c) ∧ P.kind c = k := by
  induction members generalizing d with
  | nil =>
      obtain rfl := Except.ok.inj h
      exact .inl hc
  | cons m members ih =>
      rw [List.foldlM_cons, bind_eq_ok_iff] at h
      obtain ⟨t, hm, hmembers⟩ := h
      obtain ⟨o, ho, rfl⟩ := hreads.sound hm
      obtain hbefore | ⟨m', hm', hgives⟩ := ih hmembers
      · by_cases hk : ∃ x ∈ o, k = P.kind x
        · obtain ⟨x, rfl, rfl⟩ := hk
          obtain rfl : x = c := Option.some.inj ((P.get?_put_self d x).symm.trans hbefore)
          exact .inr ⟨m, List.mem_cons_self, ho, rfl⟩
        · rw [get?_add_of_ne fun x hx hkind => hk ⟨x, hx, hkind⟩] at hbefore
          exact .inl hbefore
      · exact .inr ⟨m', List.mem_cons_of_mem m hm', hgives⟩

/-- After the first member, the others still find their places free. -/
theorem Apart.free_of_cons {m : β} (hapart : P.Apart gives (m :: members)) {o : Option γ} (ho : gives m = .ok o)
    (hfree : ∀ m' ∈ members, ∀ c, gives m' = .ok (some c) → P.get? d (P.kind c) = none) :
    ∀ m' ∈ members, ∀ c, gives m' = .ok (some c) → P.get? (P.add d o) (P.kind c) = none := by
  intro m' hm' c hc
  rw [get?_add_of_ne, hfree m' hm' c hc]
  rintro x rfl
  exact (List.rel_of_pairwise_cons hapart hm' x c ho hc).symm

section

variable (hreads : P.Reads step gives) (hapart : P.Apart gives members)
  (hfree : ∀ m ∈ members, ∀ c, gives m = .ok (some c) → P.get? d (P.kind c) = none)
include hreads hapart hfree

/-- Members that are apart and find their places free are read when each of them can be. -/
theorem Reads.exists_foldlM_iff : (∃ d', members.foldlM step d = .ok d') ↔ ∀ m ∈ members, ∃ o, gives m = .ok o := by
  induction members generalizing d with
  | nil => simp [pure, Except.pure]
  | cons m members ih =>
      obtain ⟨hm, hmembers⟩ := List.forall_mem_cons.mp hfree
      rw [List.forall_mem_cons, List.foldlM_cons]
      simp only [bind_eq_ok_iff]
      constructor
      · rintro ⟨d', t, hstep, hrest⟩
        obtain ⟨o, ho, rfl⟩ := hreads.sound hstep
        exact ⟨⟨o, ho⟩, (ih hapart.of_cons (hapart.free_of_cons ho hmembers)).mp ⟨d', hrest⟩⟩
      · rintro ⟨⟨o, ho⟩, hothers⟩
        obtain ⟨d', hrest⟩ := (ih hapart.of_cons (hapart.free_of_cons ho hmembers)).mpr hothers
        refine ⟨d', _, hreads.complete ho ?_, hrest⟩
        rintro c rfl
        exact hm c ho

/-- Every place then holds what it held before or what a member gave. -/
theorem Reads.get?_foldlM_iff (h : members.foldlM step d = .ok d') (k : κ) (c : γ) :
    P.get? d' k = some c ↔ P.get? d k = some c ∨ ∃ m ∈ members, gives m = .ok (some c) ∧ P.kind c = k := by
  refine ⟨hreads.get?_foldlM h, ?_⟩
  induction members generalizing d with
  | nil =>
      obtain rfl := Except.ok.inj h
      rintro (hc | ⟨_, hm, _⟩)
      · exact hc
      · cases hm
  | cons m members ih =>
      rw [List.foldlM_cons, bind_eq_ok_iff] at h
      obtain ⟨t, hstep, hrest⟩ := h
      obtain ⟨o, ho, rfl⟩ := hreads.sound hstep
      obtain ⟨hm, hmembers⟩ := List.forall_mem_cons.mp hfree
      have hlater := ih hapart.of_cons (hapart.free_of_cons ho hmembers) hrest
      rintro (hc | ⟨m', hm', hgives, rfl⟩)
      · refine hlater (.inl ?_)
        rw [get?_add_of_ne, hc]
        -- the place was not free, so this member did not give content of its kind
        rintro x rfl rfl
        rw [hm x ho] at hc
        cases hc
      · obtain rfl | hm' := List.mem_cons.mp hm'
        · obtain rfl := Except.ok.inj (ho.symm.trans hgives)
          exact hlater (.inl (P.get?_put_self d c))
        · exact hlater (.inr ⟨m', hm', hgives, rfl⟩)

end

end Places

/-! ### Members by name -/

/-- How the members of an object are read: the kind that a name stands for, what is made of the content under a name that stands
for none, how content of each kind is read, and the fault of a kind that occurs again. -/
structure Naming (κ γ : Type) where
  ofName? : String → Option κ
  unknown : String → Reader Unit
  content : κ → Reader γ
  duplicate : κ → Fault

namespace Naming

variable {σ κ γ : Type} (N : Naming κ γ) (P : Places σ κ γ)

def kindOf? (name : Doc) : Option κ :=
  name.name?.bind N.ofName?

def kinds (members : List (Doc × Doc)) : List κ :=
  members.filterMap fun m => N.kindOf? m.1

/-- What is read for a kind is of this kind. -/
def IsFor : Prop :=
  ∀ k x c, N.content k x = .ok c → P.kind c = k

/-- What a member gives. -/
def gives (m : Doc × Doc) : Except Fault (Option γ) := do
  let name ← m.1.readMemberName
  match N.ofName? name with
  | none => (N.unknown name m.2).map fun _ => none
  | some k => (N.content k m.2).map some

/-- Reads a member into a draft, whose place for it must be free. -/
def step (d : σ) (m : Doc × Doc) : Except Fault σ := do
  let name ← m.1.readMemberName
  match N.ofName? name with
  | none => (N.unknown name m.2).map fun _ => d
  | some k => if (P.get? d k).isSome then throw (N.duplicate k) else (N.content k m.2).map (P.put d)

variable {N P} {d d' : σ} {m : Doc × Doc} {members : List (Doc × Doc)} {k : κ} {c : γ} {o : Option γ} {name : String}

theorem gives_of_unknown (hname : m.1.name? = some name) (hk : N.ofName? name = none) :
    N.gives m = (N.unknown name m.2).map fun _ => none := by
  rw [gives, Doc.readMemberName_eq_ok_iff.mpr hname]
  simp only [bind, Except.bind, hk]

theorem gives_of_known (hname : m.1.name? = some name) (hk : N.ofName? name = some k) :
    N.gives m = (N.content k m.2).map some := by
  rw [gives, Doc.readMemberName_eq_ok_iff.mpr hname]
  simp only [bind, Except.bind, hk]

theorem step_of_unknown (hname : m.1.name? = some name) (hk : N.ofName? name = none) :
    N.step P d m = (N.unknown name m.2).map fun _ => d := by
  rw [step, Doc.readMemberName_eq_ok_iff.mpr hname]
  simp only [bind, Except.bind, hk]

theorem step_of_known (hname : m.1.name? = some name) (hk : N.ofName? name = some k) :
    N.step P d m = if (P.get? d k).isSome then .error (N.duplicate k) else (N.content k m.2).map (P.put d) := by
  rw [step, Doc.readMemberName_eq_ok_iff.mpr hname]
  simp only [bind, Except.bind, hk]
  rfl

theorem exists_name_of_gives (h : N.gives m = .ok o) : ∃ name, m.1.name? = some name := by
  obtain ⟨name, hname, _⟩ := bind_eq_ok_iff.mp h
  exact ⟨name, Doc.readMemberName_eq_ok_iff.mp hname⟩

theorem exists_name_of_step (h : N.step P d m = .ok d') : ∃ name, m.1.name? = some name := by
  obtain ⟨name, hname, _⟩ := bind_eq_ok_iff.mp h
  exact ⟨name, Doc.readMemberName_eq_ok_iff.mp hname⟩

/-- A member gives content under the name of its kind. -/
theorem gives_eq_some_iff : N.gives m = .ok (some c) ↔ ∃ k, N.kindOf? m.1 = some k ∧ N.content k m.2 = .ok c := by
  simp only [kindOf?, Option.bind_eq_some_iff]
  constructor
  · intro h
    obtain ⟨name, hname⟩ := exists_name_of_gives h
    cases hk : N.ofName? name with
    | none =>
        rw [gives_of_unknown hname hk] at h
        obtain ⟨_, _, hnone⟩ := map_eq_ok_iff.mp h
        cases hnone
    | some k =>
        rw [gives_of_known hname hk] at h
        obtain ⟨_, hc, ⟨⟩⟩ := map_eq_ok_iff.mp h
        exact ⟨k, ⟨name, hname, hk⟩, hc⟩
  · rintro ⟨k, ⟨name, hname, hk⟩, hc⟩
    rw [gives_of_known hname hk, hc]
    rfl

/-- Members are read into the places of their names. -/
theorem reads_step (hN : N.IsFor P) : P.Reads (N.step P) N.gives where
  sound := by
    intro d m d' h
    obtain ⟨name, hname⟩ := exists_name_of_step h
    cases hk : N.ofName? name with
    | none =>
        rw [step_of_unknown hname hk] at h
        obtain ⟨u, hunknown, rfl⟩ := map_eq_ok_iff.mp h
        exact ⟨none, by rw [gives_of_unknown hname hk, hunknown]; rfl, rfl⟩
    | some k =>
        rw [step_of_known hname hk] at h
        split at h
        · cases h
        · obtain ⟨c, hc, rfl⟩ := map_eq_ok_iff.mp h
          exact ⟨some c, by rw [gives_of_known hname hk, hc]; rfl, rfl⟩
  complete := by
    intro d m o h hfree
    obtain ⟨name, hname⟩ := exists_name_of_gives h
    cases hk : N.ofName? name with
    | none =>
        rw [gives_of_unknown hname hk] at h
        obtain ⟨u, hunknown, rfl⟩ := map_eq_ok_iff.mp h
        rw [step_of_unknown hname hk, hunknown]
        rfl
    | some k =>
        rw [gives_of_known hname hk] at h
        obtain ⟨c, hc, rfl⟩ := map_eq_ok_iff.mp h
        have hnone : P.get? d k = none := hN k _ c hc ▸ hfree c rfl
        rw [step_of_known hname hk, hnone, hc]
        rfl

/-- What a member gives is of the kind that its name stands for. -/
theorem kindOf?_of_gives (hN : N.IsFor P) (h : N.gives m = .ok o) :
    N.kindOf? m.1 = o.map P.kind := by
  obtain ⟨name, hname⟩ := exists_name_of_gives h
  rw [kindOf?, hname, Option.bind_some]
  cases hk : N.ofName? name with
  | none =>
      rw [gives_of_unknown hname hk] at h
      obtain ⟨_, _, rfl⟩ := map_eq_ok_iff.mp h
      rfl
  | some k =>
      rw [gives_of_known hname hk] at h
      obtain ⟨c, hc, rfl⟩ := map_eq_ok_iff.mp h
      rw [Option.map_some, hN k _ c hc]

/-- Members whose names stand for different kinds are apart. -/
theorem apart_of_nodup (hN : N.IsFor P)
    (h : (N.kinds members).Nodup) : P.Apart N.gives members := by
  refine (List.pairwise_filterMap.mp h).imp ?_
  intro m m' hne c c' hc hc'
  exact hne _ (kindOf?_of_gives hN hc) _ (kindOf?_of_gives hN hc')

/-- Where members are read to the end, no two names stand for one kind, and the places were free. -/
theorem nodup_of_foldlM (hN : N.IsFor P)
    (h : members.foldlM (N.step P) d = .ok d') : (N.kinds members).Nodup ∧ ∀ k ∈ N.kinds members, P.get? d k = none := by
  induction members generalizing d with
  | nil => exact ⟨.nil, nofun⟩
  | cons m members ih =>
      rw [List.foldlM_cons] at h
      obtain ⟨t, hm, hmembers⟩ := bind_eq_ok_iff.mp h
      obtain ⟨hnodup, hfree⟩ := ih hmembers
      obtain ⟨name, hname⟩ := exists_name_of_step hm
      have hkindOf : N.kindOf? m.1 = N.ofName? name := by rw [kindOf?, hname, Option.bind_some]
      cases hk : N.ofName? name with
      | none =>
          rw [step_of_unknown hname hk] at hm
          obtain ⟨_, _, rfl⟩ := map_eq_ok_iff.mp hm
          have hkinds : N.kinds (m :: members) = N.kinds members := List.filterMap_cons_none (hkindOf.trans hk)
          rw [hkinds]
          exact ⟨hnodup, hfree⟩
      | some k =>
          rw [step_of_known hname hk] at hm
          split at hm
          · cases hm
          · rename_i htaken
            obtain ⟨c, hc, rfl⟩ := map_eq_ok_iff.mp hm
            obtain rfl := hN k _ c hc
            have hkinds : N.kinds (m :: members) = P.kind c :: N.kinds members :=
              List.filterMap_cons_some (hkindOf.trans hk)
            rw [hkinds]
            -- the place of this member is taken from here on, and the other places are as they were
            have hnot : P.kind c ∉ N.kinds members := by
              intro hmem
              cases (P.get?_put_self d c).symm.trans (hfree _ hmem)
            refine ⟨List.nodup_cons.mpr ⟨hnot, hnodup⟩, List.forall_mem_cons.mpr ⟨?_, fun j hj => ?_⟩⟩
            · simpa using htaken
            · rw [← P.get?_put_of_ne d c j fun heq => hnot (heq ▸ hj)]
              exact hfree j hj

section

variable (hN : N.IsFor P) (hempty : ∀ k, P.get? d k = none)
include hN hempty

/-- From an empty draft, members are read when each of them can be and no kind occurs twice. -/
theorem exists_foldlM_iff : (∃ d', members.foldlM (N.step P) d = .ok d') ↔
    (N.kinds members).Nodup ∧ ∀ m ∈ members, ∃ o, N.gives m = .ok o := by
  constructor
  · rintro ⟨d', h⟩
    have hnodup := (nodup_of_foldlM hN h).1
    exact ⟨hnodup, ((reads_step hN).exists_foldlM_iff (apart_of_nodup hN hnodup) fun _ _ _ _ => hempty _).mp ⟨d', h⟩⟩
  · rintro ⟨hnodup, hgives⟩
    exact ((reads_step hN).exists_foldlM_iff (apart_of_nodup hN hnodup) fun _ _ _ _ => hempty _).mpr hgives

/-- Each place then holds what the member of its kind gave. -/
theorem get?_foldlM_iff (h : members.foldlM (N.step P) d = .ok d') :
    P.get? d' k = some c ↔ ∃ m ∈ members, N.gives m = .ok (some c) ∧ P.kind c = k := by
  have hapart := apart_of_nodup hN (nodup_of_foldlM hN h).1
  rw [(reads_step hN).get?_foldlM_iff hapart (fun _ _ _ _ => hempty _) h k c, hempty k]
  exact ⟨fun hc => hc.resolve_left nofun, .inr⟩

/-- The places of kinds that do not occur are empty. -/
theorem get?_foldlM_eq_none_iff (h : members.foldlM (N.step P) d = .ok d') : P.get? d' k = none ↔ k ∉ N.kinds members := by
  rw [Option.eq_none_iff_forall_ne_some, kinds, List.mem_filterMap, ← not_exists, not_congr]
  constructor
  · rintro ⟨c, hc⟩
    obtain ⟨m, hm, hgives, rfl⟩ := (get?_foldlM_iff hN hempty h).mp hc
    exact ⟨m, hm, kindOf?_of_gives hN hgives⟩
  · rintro ⟨m, hm, hk⟩
    obtain ⟨o, hgives⟩ := ((exists_foldlM_iff hN hempty).mp ⟨d', h⟩).2 m hm
    obtain ⟨c, rfl, hc⟩ := Option.map_eq_some_iff.mp ((kindOf?_of_gives hN hgives).symm.trans hk)
    exact ⟨c, (get?_foldlM_iff hN hempty h).mpr ⟨m, hm, hgives, hc⟩⟩

end

end Naming

end FilterQuery.Json

import FilterQuery.Proofs.Settings.File
import FilterQuery.Proofs.Settings.Limits

/-!
Layers of settings. Each limit has the value of the first layer that sets it, or its default, and only these values are judged: by
conditions that are looked at in a fixed order, of which the first that fails is reported. So layers that give every limit the
same value come to the same end, however the values are spread over them. -/

namespace FilterQuery

inductive Limit
  | maxFilterBytes
  | maxFilterDepth
  | castWidth
  | defaultPageSize
  | maxPageSize

def Limits.get (l : Limits) : Limit → Nat
  | .maxFilterBytes => l.maxFilterBytes
  | .maxFilterDepth => l.maxFilterDepth
  | .castWidth => l.castWidth
  | .defaultPageSize => l.defaultPageSize
  | .maxPageSize => l.maxPageSize

def LimitSettings.get? (s : LimitSettings) : Limit → Option Nat
  | .maxFilterBytes => s.maxFilterBytes
  | .maxFilterDepth => s.maxFilterDepth
  | .castWidth => s.castWidth
  | .defaultPageSize => s.defaultPageSize
  | .maxPageSize => s.maxPageSize

/-- The value of a limit under two layers: that of the first if it sets one, or else that of the second, or else the default. -/
def LimitSettings.valueOf (upper lower : LimitSettings) (k : Limit) : Nat :=
  match upper.get? k, lower.get? k with
  | some n, _ => n
  | none, some n => n
  | none, none => Limits.default.get k

namespace Limits

/-- A condition on limits, and the fault of limits that do not meet it. -/
structure Condition where
  holds : Limits → Bool
  fault : Limits → LimitFault

/-- The conditions on limits, in the order in which they are looked at. -/
def conditions : List Condition :=
  [⟨fun l => 0 < l.maxFilterBytes, fun _ => .noFilterBytes⟩,
    ⟨fun l => 0 < l.maxFilterDepth, fun _ => .noFilterDepth⟩,
    ⟨fun l => 1 ≤ l.castWidth ∧ l.castWidth ≤ 255, fun _ => .castWidth⟩,
    ⟨fun l => l.maxPageSize ≤ 4294967295, fun l => .maxPageSize l.maxPageSize⟩,
    ⟨fun l => l.defaultPageSize ≤ l.maxPageSize, fun l => .defaultPageSize l.defaultPageSize l.maxPageSize⟩]

variable {l l' : Limits} {fault : LimitFault}

theorem ext_get (h : ∀ k, l.get k = l'.get k) : l = l' := by
  cases l
  cases l'
  cases h .maxFilterBytes
  cases h .maxFilterDepth
  cases h .castWidth
  cases h .defaultPageSize
  cases h .maxPageSize
  rfl

theorem map_find?_cons (c : Condition) (cs : List Condition) (l : Limits) :
    ((c :: cs).find? fun c => !c.holds l).map (fun c => c.fault l) =
      if c.holds l then (cs.find? fun c => !c.holds l).map fun c => c.fault l else some (c.fault l) := by
  cases h : c.holds l <;> simp [h]

/-- The fault of limits is that of the first condition that does not hold. -/
theorem fault?_eq_find? (l : Limits) :
    l.fault? = (conditions.find? fun c => !c.holds l).map fun c => c.fault l := by
  have hwidth : maxCastWidth = 255 := rfl
  have hbound : pageBound = 4294967295 := rfl
  simp only [conditions, map_find?_cons, fault?, decide_eq_true_eq]
  split_ifs <;> first | rfl | omega

theorem fault?_eq_none_iff_holds : l.fault? = none ↔ ∀ c ∈ conditions, c.holds l = true := by
  rw [fault?_eq_find?, Option.map_eq_none_iff, List.find?_eq_none]
  simp only [Bool.not_eq_true, Bool.not_eq_false']

theorem fault?_eq_some_iff : l.fault? = some fault ↔ ∃ before c after, conditions = before ++ c :: after ∧
    (∀ b ∈ before, b.holds l = true) ∧ c.holds l = false ∧ fault = c.fault l := by
  rw [fault?_eq_find?, Option.map_eq_some_iff]
  constructor
  · rintro ⟨c, hc, rfl⟩
    obtain ⟨hfails, before, after, heq, hbefore⟩ := List.find?_eq_some_iff_append.mp hc
    exact ⟨before, c, after, heq, by simpa using hbefore, by simpa using hfails, rfl⟩
  · rintro ⟨before, c, after, heq, hbefore, hfails, rfl⟩
    exact ⟨c, List.find?_eq_some_iff_append.mpr ⟨by simpa using hfails, before, after, heq, by simpa using hbefore⟩, rfl⟩

end Limits

namespace LimitSettings

variable {upper lower upper' lower' : LimitSettings}

theorem get?_orElse (upper lower : LimitSettings) (k : Limit) :
    (upper.orElse lower).get? k = (upper.get? k <|> lower.get? k) := by
  cases k <;> rfl

/-- The limits that two layers leave in force have the values of the layers. -/
theorem get_effective_orElse (upper lower : LimitSettings) (k : Limit) :
    (upper.orElse lower).effective.get k = upper.valueOf lower k := by
  have heffective (s : LimitSettings) : s.effective.get k = (s.get? k).getD (Limits.default.get k) := by cases k <;> rfl
  rw [heffective, get?_orElse, valueOf]
  cases upper.get? k <;> cases lower.get? k <;> rfl

theorem eq_effective_iff {l : Limits} : (∀ k, l.get k = upper.valueOf lower k) ↔ l = (upper.orElse lower).effective := by
  constructor
  · intro h
    exact Limits.ext_get fun k => (h k).trans (get_effective_orElse upper lower k).symm
  · rintro rfl k
    exact get_effective_orElse upper lower k

/-- Layers that give every limit the same value come to the same limits or the same fault. -/
theorem atop_congr (h : ∀ k, upper'.valueOf lower' k = upper.valueOf lower k) : upper'.atop lower' = upper.atop lower := by
  have heffective : (upper'.orElse lower').effective = (upper.orElse lower).effective :=
    eq_effective_iff.mp fun k => (get_effective_orElse upper' lower' k).trans (h k)
  rw [atop, atop, heffective]

theorem atop_eq_error_iff {fault : LimitFault} :
    upper.atop lower = .error fault ↔ (upper.orElse lower).effective.fault? = some fault := by
  rw [atop]
  cases (upper.orElse lower).effective.fault? <;> simp

/-- Two layers leave in force the value of each limit in the first of them that sets it, or its default, if all conditions hold of
these values, and otherwise come to the fault of the first condition that does not. So it does not matter whether a value is put
into the second layer over what stands there, or taken from it into the first where nothing is set, or what the second layer
says under a value of the first; and a section of a file may be missing or without members. -/
theorem atop_joins_before_judging (upper lower : LimitSettings) :
    (∀ l, upper.atop lower = .ok l ↔ (∀ k, l.get k = upper.valueOf lower k) ∧ ∀ c ∈ Limits.conditions, c.holds l = true) ∧
      (∀ fault, upper.atop lower = .error fault ↔ ∃ l before c after, (∀ k, l.get k = upper.valueOf lower k) ∧
        Limits.conditions = before ++ c :: after ∧ (∀ b ∈ before, b.holds l = true) ∧ c.holds l = false ∧ fault = c.fault l) ∧
      empty.atop (upper.orElse lower) = upper.atop lower ∧ upper.atop (upper.orElse lower) = upper.atop lower ∧
      (∀ moved rest, moved.orElse rest = lower → (upper.orElse moved).atop rest = upper.atop lower) ∧
      (∀ lower', (∀ k, upper.get? k = none → lower'.get? k = lower.get? k) → upper.atop lower' = upper.atop lower) ∧
      ∀ (s : SettingsFile.Section) x before after closed, x = .null ∨ x = .object [] true →
        (∀ m ∈ before ++ after, m.1.name? ≠ some s.name) →
          SettingsFile.read Json.maxDepth (.object (before ++ (.string (some s.name), x) :: after) closed) =
            SettingsFile.read Json.maxDepth (.object (before ++ after) closed) := by
  refine ⟨fun l => ?_, fun fault => ?_, ?_, ?_, fun moved rest hmoved => ?_, fun lower' hlower => ?_, ?_⟩
  · rw [atop_eq_ok_iff, ← Limits.fault?_eq_none_iff, Limits.fault?_eq_none_iff_holds, eq_effective_iff]
  · rw [atop_eq_error_iff, Limits.fault?_eq_some_iff]
    simp only [eq_effective_iff, exists_and_left, exists_eq_left]
  · refine atop_congr fun k => ?_
    have hempty : empty.get? k = none := by cases k <;> rfl
    rw [valueOf, valueOf, get?_orElse, hempty]
    cases upper.get? k <;> cases lower.get? k <;> rfl
  · refine atop_congr fun k => ?_
    rw [valueOf, valueOf, get?_orElse]
    cases upper.get? k <;> cases lower.get? k <;> rfl
  · refine atop_congr fun k => ?_
    rw [← hmoved, valueOf, valueOf, get?_orElse, get?_orElse]
    cases upper.get? k <;> cases moved.get? k <;> cases rest.get? k <;> rfl
  · refine atop_congr fun k => ?_
    rw [valueOf, valueOf]
    cases hupper : upper.get? k with
    | none => rw [hlower k hupper]
    | some n => rfl
  · intro s x before after closed hx hnames
    exact SettingsFile.read_of_empty_section hx hnames

/-- A width that would be wrong under a width that is not, a page size that is moved up, and a section that is null. -/
theorem atop_of_overridden_width :
    let upper : LimitSettings := ⟨some 1, none, some 64, none, none⟩
    let lower : LimitSettings := ⟨none, none, some 0, some 10, some 50⟩
    let moved : LimitSettings := ⟨none, none, none, some 10, none⟩
    let rest : LimitSettings := ⟨none, none, some 0, none, some 50⟩
    let limits : Limits := ⟨1, 32, 64, 10, 50⟩
    let members : List (Json.Doc × Json.Doc) := [(.string (some "pagination"), .object [] true)]
    upper.atop lower = .ok limits ∧ (upper.orElse moved).atop rest = .ok limits ∧
      upper.atop ⟨some 0, none, none, some 10, some 50⟩ = .ok limits ∧ empty.atop lower = .error .castWidth ∧
      SettingsFile.read Json.maxDepth (.object (members ++ [(.string (some "filter"), .null)]) true) =
        SettingsFile.read Json.maxDepth (.object members true) := by
  intro upper lower moved rest limits members
  obtain ⟨hok, _, _, _, hmoved, hlower, hsection⟩ := atop_joins_before_judging upper lower
  have hlimits : upper.atop lower = .ok limits := by
    rw [hok]
    exact ⟨fun k => by cases k <;> rfl, by decide⟩
  refine ⟨hlimits, (hmoved moved rest rfl).trans hlimits, (hlower _ fun k hk => ?_).trans hlimits, rfl, ?_⟩
  · cases k <;> first | rfl | cases hk
  · have hnames : ∀ m ∈ members ++ [], m.1.name? ≠ some SettingsFile.Section.filter.name := by
      simp [members, Json.Doc.name?, SettingsFile.Section.name]
    exact hsection .filter .null members [] true (.inl rfl) hnames

end LimitSettings

end FilterQuery

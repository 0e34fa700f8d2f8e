import Mathlib.Data.List.Induction
import Mathlib.Data.List.Pairwise
import FilterQuery.Keyset.Change

/-!
The last change of each kind. Two changes of one kind are the later of them, and two of different kinds may be made in either order, so
of all changes only the last of each kind counts, and those may be made in any order: a request is made of what was set last. -/

namespace FilterQuery

namespace PageRequest

/-- The four things that a change can replace. -/
inductive Change.Kind
  | filter
  | cursor
  | pageSize
  | limits
deriving DecidableEq

namespace Change

def kind : Change → Kind
  | filter _ => .filter
  | cursor _ => .cursor
  | pageSize _ => .pageSize
  | limits _ => .limits

/-- A change that no later one of its kind replaces. -/
def IsLast (c : Change) (changes : List Change) : Prop :=
  ∃ earlier later, changes = earlier ++ c :: later ∧ ∀ d ∈ later, d.kind ≠ c.kind

/-- The last change of each kind, in any order. -/
structure LastOfEach (last changes : List Change) : Prop where
  mem_iff : ∀ c, c ∈ last ↔ c.IsLast changes
  distinct : last.Pairwise fun c d => c.kind ≠ d.kind

/-- The changes that no later one replaces. -/
def standing : List Change → List Change
  | [] => []
  | c :: cs => if ∃ d ∈ cs, d.kind = c.kind then standing cs else c :: standing cs

variable {b c : Change} {cs last last' changes : List Change}

theorem isLast_cons_iff : c.IsLast (b :: cs) ↔ (c = b ∧ ∀ d ∈ cs, d.kind ≠ c.kind) ∨ c.IsLast cs := by
  constructor
  · rintro ⟨earlier, later, heq, hlast⟩
    cases earlier with
    | nil =>
        obtain ⟨rfl, rfl⟩ := List.cons.inj heq
        exact .inl ⟨rfl, hlast⟩
    | cons a earlier =>
        obtain ⟨rfl, rfl⟩ := List.cons.inj heq
        exact .inr ⟨earlier, later, rfl, hlast⟩
  · rintro (⟨rfl, hlast⟩ | ⟨earlier, later, rfl, hlast⟩)
    · exact ⟨[], cs, rfl, hlast⟩
    · exact ⟨b :: earlier, later, rfl, hlast⟩

theorem mem_standing_cons_iff : c ∈ standing (b :: cs) ↔ (c = b ∧ ∀ d ∈ cs, d.kind ≠ c.kind) ∨ c ∈ standing cs := by
  rw [standing]
  split
  case isTrue h =>
    obtain ⟨d, hd, hkind⟩ := h
    refine ⟨.inr, ?_⟩
    rintro (⟨rfl, hlast⟩ | hc)
    · exact absurd hkind (hlast d hd)
    · exact hc
  case isFalse h =>
    have hlast : ∀ d ∈ cs, d.kind ≠ b.kind := fun d hd hkind => h ⟨d, hd, hkind⟩
    rw [List.mem_cons]
    refine or_congr_left ⟨?_, And.left⟩
    rintro rfl
    exact ⟨rfl, hlast⟩

theorem mem_standing_iff : c ∈ standing changes ↔ c.IsLast changes := by
  induction changes with
  | nil => simp [standing, IsLast]
  | cons b cs ih => rw [mem_standing_cons_iff, isLast_cons_iff, ih]

theorem mem_of_mem_standing (h : c ∈ standing changes) : c ∈ changes := by
  obtain ⟨earlier, later, rfl, _⟩ := mem_standing_iff.mp h
  exact List.mem_append_right earlier List.mem_cons_self

theorem pairwise_standing (changes : List Change) : (standing changes).Pairwise fun c d => c.kind ≠ d.kind := by
  induction changes with
  | nil => exact .nil
  | cons b cs ih =>
      rw [standing]
      split
      case isTrue => exact ih
      case isFalse hlast =>
        refine .cons ?_ ih
        intro d hd hkind
        exact hlast ⟨d, mem_of_mem_standing hd, hkind.symm⟩

theorem lastOfEach_standing (changes : List Change) : LastOfEach (standing changes) changes :=
  ⟨fun _ => mem_standing_iff, pairwise_standing changes⟩

theorem nodup_of_distinct (h : cs.Pairwise fun c d => c.kind ≠ d.kind) : cs.Nodup :=
  h.imp fun hkind heq => hkind (congrArg kind heq)

/-- The last change of each kind is the same up to order. -/
theorem LastOfEach.perm (h : LastOfEach last changes) (h' : LastOfEach last' changes) :
    last.Perm last' := by
  rw [List.perm_ext_iff_of_nodup (nodup_of_distinct h.distinct) (nodup_of_distinct h'.distinct)]
  intro c
  rw [h.mem_iff, h'.mem_iff]

theorem LastOfEach.of_perm (h : LastOfEach last changes) (hperm : last.Perm last') : LastOfEach last' changes :=
  ⟨fun c => hperm.mem_iff.symm.trans (h.mem_iff c), h.distinct.perm hperm Ne.symm⟩

end Change

variable {c d : Change} {cs last changes : List Change}

/-! ### Two changes -/

/-- A change replaces an earlier one of its kind. -/
theorem changed_changed (q : PageRequest) (h : c.kind = d.kind) : (q.changed c).changed d = q.changed d := by
  cases c <;> cases d <;> first | rfl | cases h

/-- Changes of different kinds do not meet. -/
theorem changed_comm (q : PageRequest) (h : c.kind ≠ d.kind) : (q.changed c).changed d = (q.changed d).changed c := by
  cases c <;> cases d <;> first | rfl | exact absurd rfl h

/-! ### Runs -/

theorem changedBy_changed_of_mem (q : PageRequest) (h : ∃ d ∈ cs, d.kind = c.kind) :
    (q.changed c).changedBy cs = q.changedBy cs := by
  induction cs generalizing q with
  | nil =>
      obtain ⟨_, hd, _⟩ := h
      cases hd
  | cons b cs ih =>
      change ((q.changed c).changed b).changedBy cs = (q.changed b).changedBy cs
      -- the change moves behind those of other kinds until it meets the one that replaces it
      by_cases hkind : c.kind = b.kind
      · rw [changed_changed q hkind]
      · obtain ⟨d, hd, hd'⟩ := h
        obtain rfl | hd := List.mem_cons.mp hd
        · exact absurd hd'.symm hkind
        · rw [changed_comm q hkind]
          exact ih (q.changed b) ⟨d, hd, hd'⟩

/-- Changes that a later one replaces may be left out. -/
theorem changedBy_standing (q : PageRequest) (changes : List Change) :
    q.changedBy (Change.standing changes) = q.changedBy changes := by
  induction changes generalizing q with
  | nil => rfl
  | cons b cs ih =>
      rw [Change.standing]
      split
      case isTrue h => exact (ih q).trans (changedBy_changed_of_mem q h).symm
      case isFalse => exact ih (q.changed b)

/-- Changes of different kinds may be made in any order. -/
theorem changedBy_perm (q : PageRequest) {cs' : List Change} (hperm : cs.Perm cs')
    (hdistinct : cs.Pairwise fun c d => c.kind ≠ d.kind) : q.changedBy cs = q.changedBy cs' := by
  have hsymm : Std.Symm fun c d : Change => c.kind ≠ d.kind := ⟨fun _ _ => Ne.symm⟩
  apply hperm.foldl_eq'
  intro c hc d hd p
  by_cases heq : c = d
  · rw [heq]
  · exact changed_comm p (hdistinct.forall hc hd heq)

theorem changedBy_lastOfEach (q : PageRequest) (h : Change.LastOfEach last changes) :
    q.changedBy last = q.changedBy changes := by
  rw [← changedBy_standing q changes]
  exact q.changedBy_perm (h.perm (Change.lastOfEach_standing changes)) h.distinct

/-! ### What is in force -/

namespace Change

def filter? : Change → Option (Option Filter)
  | filter f => some f
  | _ => none

def cursor? : Change → Option (Option String)
  | cursor text => some text
  | _ => none

def pageSize? : Change → Option Nat
  | pageSize rows => some rows
  | _ => none

end Change

/-- What was set last; where nothing was set, what was there at first. -/
def lastSet {α : Type} (sets? : Change → Option α) (initial : α) (changes : List Change) : α :=
  (changes.filterMap sets?).getLast?.getD initial

/-- The request for what was set last. -/
def ofLast (table uniqueId : String) (changes : List Change) : PageRequest where
  table := table
  uniqueId := uniqueId
  filter := lastSet Change.filter? none changes
  cursor := lastSet Change.cursor? none changes
  pageSize := lastSet Change.pageSize? 0 changes
  castWidth := (lastSet Change.limits? Limits.default changes).castWidth
  maxPageSize := min (lastSet Change.limits? Limits.default changes).maxPageSize Limits.pageBound

theorem lastSet_append_singleton {α : Type} (sets? : Change → Option α) (initial : α) (changes : List Change) (c : Change) :
    lastSet sets? initial (changes ++ [c]) = (sets? c).getD (lastSet sets? initial changes) := by
  cases hc : sets? c <;> simp [lastSet, hc]

theorem changedBy_ofTable (table uniqueId : String) (changes : List Change) :
    (ofTable table uniqueId).changedBy changes = ofLast table uniqueId changes := by
  -- from the last change backwards, since that is where what is in force is found
  induction changes using List.reverseRecOn with
  | nil => rfl
  | append_singleton changes c ih =>
      rw [changedBy_append, ih]
      simp only [ofLast, lastSet_append_singleton]
      cases c <;> rfl

end PageRequest

end FilterQuery

import FilterQuery.Keyset.Request

/-!
Changes of a page request. Each of the four kinds replaces one thing and leaves the others, the table and the unique id alone, so the last
change of each kind decides. -/

namespace FilterQuery

/-- A change of one thing in a page request. -/
inductive PageRequest.Change
  | filter (f : Option Filter)
  | cursor (text : Option String)
  | pageSize (rows : Nat)
  | limits (limits : Limits)

namespace PageRequest

def changed (q : PageRequest) : Change → PageRequest
  | .filter f => q.filteredBy f
  | .cursor text => q.startingAfter text
  | .pageSize rows => q.ofSize rows
  | .limits limits => q.under limits

def changedBy (q : PageRequest) (changes : List Change) : PageRequest :=
  changes.foldl changed q

theorem changedBy_append (q : PageRequest) (earlier later : List Change) :
    q.changedBy (earlier ++ later) = (q.changedBy earlier).changedBy later :=
  List.foldl_append

def Change.limits? : Change → Option Limits
  | limits l => some l
  | _ => none

/-- The limits that were set last; where none were set, the defaults. -/
def lastLimits (changes : List Change) : Limits :=
  (changes.filterMap Change.limits?).getLast?.getD Limits.default

/-- A request as callers can make one: for all rows of a table, and then changed. -/
def Built (q : PageRequest) : Prop :=
  ∃ table uniqueId changes, q = (ofTable table uniqueId).changedBy changes

theorem maxPageSize_changed_le {q : PageRequest} (h : q.maxPageSize ≤ Limits.pageBound) (c : Change) :
    (q.changed c).maxPageSize ≤ Limits.pageBound := by
  cases c with
  | limits limits => exact Nat.min_le_right limits.maxPageSize Limits.pageBound
  | _ => exact h

theorem maxPageSize_changedBy_le {q : PageRequest} (h : q.maxPageSize ≤ Limits.pageBound) (changes : List Change) :
    (q.changedBy changes).maxPageSize ≤ Limits.pageBound := by
  induction changes generalizing q with
  | nil => exact h
  | cons c changes ih => exact ih (maxPageSize_changed_le h c)

/-- Whatever the limits were set to, the greatest page size is within its own bound. -/
theorem Built.maxPageSize_le {q : PageRequest} (h : q.Built) : q.maxPageSize ≤ Limits.pageBound := by
  obtain ⟨table, uniqueId, changes, rfl⟩ := h
  exact maxPageSize_changedBy_le (Nat.le_refl Limits.pageBound) changes

end PageRequest

end FilterQuery

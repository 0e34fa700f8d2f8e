import Mathlib.Logic.Basic
import FilterQuery.Json.Read

/-!
What readers ask of a document: how its parts are looked at, and how many levels it needs. A document that nests no deeper than
there are levels is as readable as with any other number of levels that is enough. -/

namespace FilterQuery.Json.Doc

variable {levels levels' : Nat} {name : Doc} {s : String} {closed : Bool}

/-! ### Single questions -/

theorem wrongKind_ne_ok {α : Type} (expected : String) (d : Doc) (a : α) : d.wrongKind expected ≠ .ok a := by
  rw [wrongKind]
  cases d.found <;> nofun

theorem close_eq_ok_iff {u : Unit} : close closed = .ok u ↔ closed = true := by
  cases closed <;> simp [close]

theorem readMemberName_eq_ok_iff : name.readMemberName = .ok s ↔ name.name? = some s := by
  rw [readMemberName]
  cases name.name? <;> simp

theorem readString_eq_ok_iff {d : Doc} : d.readString = .ok s ↔ d = .string (some s) := by
  cases d with
  | string text =>
      cases text with
      | none => simp [readString, wrongKind_ne_ok]
      | some => simp [readString]
  | _ => simp [readString, wrongKind_ne_ok]

theorem readBool_eq_ok_iff {d : Doc} {b : Bool} : d.readBool = .ok b ↔ d = .bool b := by
  cases d <;> simp [readBool, wrongKind_ne_ok]

theorem name?_eq_some_iff : name.name? = some s ↔ name = .string (some s) := by
  cases name <;> simp [name?]

/-! ### Levels -/

mutual

/-- How many arrays and objects stand inside one another. -/
def nesting : Doc → Nat
  | .array items _ => nestingOfItems items + 1
  | .object members _ => nestingOfMembers members + 1
  | _ => 0

def nestingOfItems : List Doc → Nat
  | [] => 0
  | d :: ds => max d.nesting (nestingOfItems ds)

def nestingOfMembers : List (Doc × Doc) → Nat
  | [] => 0
  | (name, value) :: ms => max (max name.nesting value.nesting) (nestingOfMembers ms)

end

theorem nestingOfItems_le_iff {items : List Doc} : nestingOfItems items ≤ levels ↔ ∀ d ∈ items, d.nesting ≤ levels := by
  induction items with
  | nil => simp [nestingOfItems]
  | cons d ds ih => rw [nestingOfItems, Nat.max_le, ih, List.forall_mem_cons]

theorem nestingOfMembers_le_iff {members : List (Doc × Doc)} :
    nestingOfMembers members ≤ levels ↔ ∀ m ∈ members, m.1.nesting ≤ levels ∧ m.2.nesting ≤ levels := by
  induction members with
  | nil => simp [nestingOfMembers]
  | cons m ms ih => rw [nestingOfMembers, Nat.max_le, Nat.max_le, ih, List.forall_mem_cons]

theorem nesting_array_le_iff {items : List Doc} :
    (array items closed).nesting ≤ levels ↔ ∃ below, levels = below + 1 ∧ ∀ d ∈ items, d.nesting ≤ below := by
  rw [nesting]
  cases levels with
  | zero => simp
  | succ levels => simp [nestingOfItems_le_iff]

theorem nesting_object_le_iff {members : List (Doc × Doc)} : (object members closed).nesting ≤ levels ↔
    ∃ below, levels = below + 1 ∧ ∀ m ∈ members, m.1.nesting ≤ below ∧ m.2.nesting ≤ below := by
  rw [nesting]
  cases levels with
  | zero => simp
  | succ levels => simp [nestingOfMembers_le_iff]

/-- Levels beyond those that a document needs do not matter. -/
theorem isReadable_of_nesting_le {d : Doc} (h : d.nesting ≤ levels) (h' : d.nesting ≤ levels') :
    d.isReadable levels = d.isReadable levels' := by
  induction levels using Nat.strongRecOn generalizing d levels' with
  | ind levels ih =>
      cases d with
      | null | bool | number | string | broken => cases levels <;> cases levels' <;> rfl
      | array items closed =>
          obtain ⟨below, rfl, hitems⟩ := nesting_array_le_iff.mp h
          obtain ⟨below', rfl, hitems'⟩ := nesting_array_le_iff.mp h'
          rw [isReadable, isReadable, Bool.eq_iff_iff, Bool.and_eq_true, Bool.and_eq_true, List.all_eq_true, List.all_eq_true]
          refine and_congr_right fun _ => forall₂_congr fun d hd => ?_
          rw [ih below (Nat.lt_succ_self below) (hitems d hd) (hitems' d hd)]
      | object members closed =>
          obtain ⟨below, rfl, hmembers⟩ := nesting_object_le_iff.mp h
          obtain ⟨below', rfl, hmembers'⟩ := nesting_object_le_iff.mp h'
          rw [isReadable, isReadable, Bool.eq_iff_iff, Bool.and_eq_true, Bool.and_eq_true, List.all_eq_true, List.all_eq_true]
          refine and_congr_right fun _ => forall₂_congr fun m hm => ?_
          rw [ih below (Nat.lt_succ_self below) (hmembers m hm).2 (hmembers' m hm).2]

end FilterQuery.Json.Doc

import Mathlib.Logic.ExistsUnique
import FilterQuery.Failure

/-!
Positions around failures. A failure falls apart, in just one way, into the positions around it and the root behind them. What a
position does is said once: it changes neither the root nor the code, and puts its own text in front of the message. The laws
of whole failures follow by induction on their positions, and so does the end of the loop that takes them off. -/

namespace FilterQuery

/-- Where a failure was met. -/
inductive Position
  /-- In the part of a group at an index, under the word for the connective. -/
  | part (connective : String) (index : Nat)
  /-- In the row at an index. -/
  | row (index : Nat)

namespace Position

def around : Position → Failure → Failure
  | part connective i, cause => .inPart connective i cause
  | row i, cause => .inRow i cause

/-- What a message says of the position. -/
def text : Position → String
  | part connective i => connective ++ " condition #" ++ toString i ++ ": "
  | row i => "Row " ++ toString i ++ ": "

end Position

namespace Failure

/-- The failure with positions around it, the first of them outermost. -/
def wrapped (cause : Failure) (ps : List Position) : Failure :=
  ps.foldr Position.around cause

def positions : Failure → List Position
  | inPart connective i cause => .part connective i :: cause.positions
  | inRow i cause => .row i :: cause.positions
  | _ => []

/-- A failure without a position around it. -/
def IsBare : Failure → Prop
  | inPart .. | inRow .. => False
  | _ => True

/-- The failure behind the outermost position, if there is one. -/
def cause? : Failure → Option Failure
  | inPart _ _ cause | inRow _ cause => some cause
  | _ => none

/-- The loop that goes on to what is behind the outermost position as long as there is one, stopped after some turns. -/
def unwrapWithin (turns : Nat) (f : Failure) : Option Failure :=
  match f.cause? with
  | none => some f
  | some cause =>
    match turns with
    | 0 => none
    | turns + 1 => unwrapWithin turns cause

/-- The code of the failure's own kind. There is none for a position. -/
def ownCode? : Failure → Option String
  | invalidShape _ => some "INVALID_CONDITION_SHAPE"
  | invalidIdentifier _ => some "INVALID_IDENTIFIER"
  | unknownOperator _ => some "UNSUPPORTED_OPERATOR"
  | missingValue .. => some "VALUE_REQUIRED"
  | surplusValue .. => some "VALUE_NOT_ALLOWED"
  | unfitValue .. => some "INVALID_VALUE"
  | pageTooLong .. | cursorTooGreat .. => some "RANGE_EXCEEDED"
  | badCell .. => some "DECODE_FAILURE"
  | filterTooLong _ => some "FILTER_TOO_LARGE"
  | filterTooDeep _ => some "FILTER_TOO_DEEP"
  | unreadableFilter _ => some "INVALID_FILTER_JSON"
  | noUniqueId => some "MISSING_UNIQUE_ID"
  | inPart .. | inRow .. => none

variable {f : Failure}

/-! ### One position -/

section Around

variable (p : Position) (f : Failure)

theorem cause?_around : (p.around f).cause? = some f := by
  cases p <;> rfl

theorem root_around : (p.around f).root = f.root := by
  cases p <;> rfl

theorem code_around : (p.around f).code = f.code := by
  cases p <;> rfl

theorem positions_around : (p.around f).positions = p :: f.positions := by
  cases p <;> rfl

theorem message_around : (p.around f).message = p.text ++ f.message := by
  cases p with
  | part connective i =>
      calc (inPart connective i f).message
        _ = connective ++ (" condition #" ++ toString i ++ ": ") ++ f.message := rfl
        _ = connective ++ " condition #" ++ toString i ++ ": " ++ f.message := by simp only [String.append_assoc]
  | row i => rfl

end Around

/-! ### No position -/

namespace IsBare

variable (h : f.IsBare)

include h

theorem cause?_eq : f.cause? = none := by
  cases f with
  | inPart | inRow => exact h.elim
  | _ => rfl

theorem root_eq : f.root = f := by
  cases f with
  | inPart | inRow => exact h.elim
  | _ => rfl

theorem positions_eq : f.positions = [] := by
  cases f with
  | inPart | inRow => exact h.elim
  | _ => rfl

theorem ownCode?_eq : f.ownCode? = some f.code := by
  cases f with
  | inPart | inRow => exact h.elim
  | _ => rfl

end IsBare

/-! ### Any positions -/

/-- What holds without positions, and with one more position around whatever it holds of, holds of every failure. -/
@[elab_as_elim]
theorem induction_around {motive : Failure → Prop} (bare : ∀ f : Failure, f.IsBare → motive f)
    (around : ∀ (p : Position) (f : Failure), motive f → motive (p.around f)) (f : Failure) : motive f := by
  induction f with
  | inPart connective i cause ih => exact around (.part connective i) cause ih
  | inRow i cause ih => exact around (.row i) cause ih
  | _ => exact bare _ trivial

theorem isBare_root (f : Failure) : f.root.IsBare := by
  induction f using induction_around with
  | bare f h =>
      rw [h.root_eq]
      exact h
  | around p f ih =>
      rw [root_around]
      exact ih

theorem wrapped_positions (f : Failure) : f.root.wrapped f.positions = f := by
  induction f using induction_around with
  | bare f h =>
      rw [h.root_eq, h.positions_eq]
      rfl
  | around p f ih =>
      rw [root_around, positions_around]
      show p.around (f.root.wrapped f.positions) = p.around f
      rw [ih]

theorem root_wrapped (cause : Failure) (ps : List Position) : (cause.wrapped ps).root = cause.root := by
  induction ps with
  | nil => rfl
  | cons p ps ih =>
      show (p.around (cause.wrapped ps)).root = cause.root
      rw [root_around, ih]

theorem positions_wrapped (cause : Failure) (ps : List Position) : (cause.wrapped ps).positions = ps ++ cause.positions := by
  induction ps with
  | nil => rfl
  | cons p ps ih =>
      show (p.around (cause.wrapped ps)).positions = p :: (ps ++ cause.positions)
      rw [positions_around, ih]

/-- The loop ends at the root, after as many turns as there are positions. -/
theorem unwrapWithin_eq (turns : Nat) (f : Failure) :
    f.unwrapWithin turns = if f.positions.length ≤ turns then some f.root else none := by
  induction f using induction_around generalizing turns with
  | bare f h =>
      rw [unwrapWithin, h.cause?_eq, h.positions_eq, h.root_eq]
      exact (if_pos turns.zero_le).symm
  | around p f ih =>
      rw [unwrapWithin, cause?_around, positions_around, root_around, List.length_cons]
      cases turns with
      | zero => rfl
      | succ turns =>
          show f.unwrapWithin turns = _
          rw [ih turns]
          simp only [Nat.add_le_add_iff_right]

/-- Looking the code up by the kind of the root never comes to a position. -/
theorem ownCode?_root (f : Failure) : f.root.ownCode? = some f.code := by
  induction f using induction_around with
  | bare f h => rw [h.root_eq, h.ownCode?_eq]
  | around p f ih => rw [root_around, code_around, ih]

theorem message_eq (f : Failure) : f.message = String.join (f.positions.map Position.text) ++ f.root.message := by
  induction f using induction_around with
  | bare f h => rw [h.positions_eq, h.root_eq, List.map_nil, String.join_nil, String.empty_append]
  | around p f ih =>
      calc (p.around f).message
        _ = p.text ++ f.message := message_around p f
        _ = p.text ++ (String.join (f.positions.map Position.text) ++ f.root.message) := by rw [ih]
        _ = _ := by rw [positions_around, root_around, List.map_cons, String.join_cons, String.append_assoc]

theorem IsBare.root_wrapped_eq {base : Failure} (h : base.IsBare) (ps : List Position) : (base.wrapped ps).root = base := by
  rw [root_wrapped, h.root_eq]

theorem IsBare.positions_wrapped_eq {base : Failure} (h : base.IsBare) (ps : List Position) :
    (base.wrapped ps).positions = ps := by
  rw [positions_wrapped, h.positions_eq, List.append_nil]

/-- Positions hide nothing of the failure behind them. Every failure is made, in just one way, of a failure that has no position
around it and of positions. These are taken off in as many turns as there are, and what is left is the failure behind them, the
root. Looking up the code of the root does not come to a position and gives the code of the whole, which is that of the failure
behind; and the message is made of the texts of the positions, from the outside in, and then the message of that failure. -/
theorem wrapped_keeps_kind :
    (∀ f : Failure, ∃! x : Failure × List Position, x.1.IsBare ∧ x.1.wrapped x.2 = f) ∧
    ∀ (base : Failure) (ps : List Position), base.IsBare →
      (∀ turns, (base.wrapped ps).unwrapWithin turns = if ps.length ≤ turns then some base else none) ∧
      (base.wrapped ps).root = base ∧
      (base.wrapped ps).root.ownCode? = some (base.wrapped ps).code ∧
      (base.wrapped ps).code = base.code ∧
      (base.wrapped ps).message = String.join (ps.map Position.text) ++ base.message := by
  constructor
  · intro f
    refine ⟨(f.root, f.positions), ⟨f.isBare_root, f.wrapped_positions⟩, ?_⟩
    rintro ⟨base, ps⟩ ⟨h, rfl⟩
    rw [h.root_wrapped_eq, h.positions_wrapped_eq]
  · intro base ps h
    refine ⟨?_, h.root_wrapped_eq ps, ownCode?_root _, ?_, ?_⟩
    · intro turns
      rw [unwrapWithin_eq, h.positions_wrapped_eq, h.root_wrapped_eq]
    · apply Option.some.inj
      rw [← ownCode?_root, h.root_wrapped_eq, h.ownCode?_eq]
    · rw [message_eq, h.positions_wrapped_eq, h.root_wrapped_eq]

/-- Positions of both kinds in front of a message that says nothing of them. Two turns do not take off three positions. -/
theorem wrapped_in_two_groups_and_row :
    let base : Failure := .surplusValue "email" .isNull
    let f : Failure := .inRow 3 (.inPart "OR" 0 (.inPart "AND" 12 base))
    f.unwrapWithin 2 = none ∧ f.unwrapWithin 3 = some base ∧ f.root = base ∧ f.code = "VALUE_NOT_ALLOWED" ∧
      f.message = "Row 3: OR condition #0: AND condition #12: Operator IS NULL on field \"email\" does not accept a value" := by
  intro base f
  obtain ⟨hturns, hroot, -, hcode, hmessage⟩ := wrapped_keeps_kind.2 base [.row 3, .part "OR" 0, .part "AND" 12] trivial
  refine ⟨hturns 2, hturns 3, hroot, hcode, hmessage.trans ?_⟩
  decide

end Failure

end FilterQuery

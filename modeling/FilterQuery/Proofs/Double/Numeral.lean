import FilterQuery.Double.Numeral
import Mathlib.Data.List.TakeWhile
import Mathlib.Tactic.SplitIfs

/-!
How numerals are written: a sign, digits with an optional point among them, and an optional exponent. The parts can be told
apart by the character that each begins with, so a text is written for one numeral at most, the one that is read. -/

namespace FilterQuery

inductive SignText : Bool → List Char → Prop
  | none : SignText false []
  | plus : SignText false ['+']
  | minus : SignText true ['-']

/-- An exponent: a mark, a sign and digits. -/
inductive ExponentText : Option (Bool × List Char) → List Char → Prop
  | none : ExponentText none []
  | some {negative : Bool} {mark : Char} {sign digits : List Char} (hmark : mark = 'e' ∨ mark = 'E')
      (hsign : SignText negative sign) (hne : digits ≠ []) (hdigits : ∀ c ∈ digits, c.isDigit = true) :
      ExponentText (some (negative, digits)) (mark :: (sign ++ digits))

def fractionText : Option (List Char) → List Char
  | none => []
  | some digits => '.' :: digits

namespace Numeral

def digits (n : Numeral) : List Char :=
  n.whole ++ n.fraction.getD []

/-- The numeral is what the text says behind its sign. -/
structure IsUnsigned (n : Numeral) (s : List Char) : Prop where
  digits_ne : n.digits ≠ []
  isDigit : ∀ c ∈ n.digits, c.isDigit = true
  text : ∃ tail, ExponentText n.exponent tail ∧ s = n.whole ++ fractionText n.fraction ++ tail

end Numeral

variable {n : Numeral} {s sign digits rest : List Char} {c : Char} {negative : Bool}

/-! ### What stands at the head of a text -/

section Head

variable {α : Type} {p : α → Bool} {front back : List α}

theorem takeWhile_append_of_head (hfront : ∀ a ∈ front, p a = true) (hback : ∀ a ∈ back.head?, p a = false) :
    (front ++ back).takeWhile p = front := by
  rw [List.takeWhile_append_of_pos hfront]
  cases back with
  | nil => simp
  | cons a back => simp [hback a rfl]

theorem dropWhile_append_of_head (hfront : ∀ a ∈ front, p a = true) (hback : ∀ a ∈ back.head?, p a = false) :
    (front ++ back).dropWhile p = back := by
  rw [List.dropWhile_append_of_pos hfront]
  cases back with
  | nil => rfl
  | cons a back => simp [hback a rfl]

end Head

/-! ### Signs -/

/-- The sign at the head of a text, and what stands behind it. -/
def splitSign : List Char → Bool × List Char
  | '-' :: s => (true, s)
  | '+' :: s => (false, s)
  | s => (false, s)

theorem exists_sign (s : List Char) : ∃ sign, SignText (splitSign s).1 sign ∧ s = sign ++ (splitSign s).2 := by
  unfold splitSign
  split
  · exact ⟨['-'], .minus, rfl⟩
  · exact ⟨['+'], .plus, rfl⟩
  · exact ⟨[], .none, rfl⟩

/-- A sign can be told from what stands behind it, unless that begins with a sign again. -/
theorem splitSign_append (hsign : SignText negative sign) (hrest : ∀ c ∈ rest.head?, c ≠ '+' ∧ c ≠ '-') :
    splitSign (sign ++ rest) = (negative, rest) := by
  cases hsign with
  | none =>
      rw [List.nil_append, splitSign]
      · rintro s rfl
        exact (hrest '-' rfl).2 rfl
      · rintro s rfl
        exact (hrest '+' rfl).1 rfl
  | plus => rfl
  | minus => rfl

theorem not_sign_of_isDigit (h : c.isDigit = true) : c ≠ '+' ∧ c ≠ '-' := by
  constructor <;> rintro rfl <;> cases h

/-! ### Numerals -/

theorem Numeral.readExponent_eq_some_iff : Numeral.readExponent s = some (negative, digits) ↔
    digits ≠ [] ∧ (∀ c ∈ digits, c.isDigit = true) ∧ ∃ sign, SignText negative sign ∧ s = sign ++ digits := by
  have hread : Numeral.readExponent s =
      if !(splitSign s).2.isEmpty && (splitSign s).2.all Char.isDigit then some (splitSign s) else none := rfl
  rw [hread]
  constructor
  · intro h
    split_ifs at h with hdigits
    obtain ⟨sign, hsign, hs⟩ := exists_sign s
    rw [Option.some_inj.mp h] at hdigits hsign hs
    simp only [Bool.and_eq_true, Bool.not_eq_true', List.isEmpty_eq_false_iff, List.all_eq_true] at hdigits
    exact ⟨hdigits.1, hdigits.2, sign, hsign, hs⟩
  · rintro ⟨hne, hdigits, sign, hsign, rfl⟩
    have hhead : ∀ c ∈ digits.head?, c ≠ '+' ∧ c ≠ '-' := fun c hc =>
      not_sign_of_isDigit (hdigits c (List.mem_of_mem_head? hc))
    rw [splitSign_append hsign hhead, if_pos]
    simpa [hne] using hdigits

theorem ExponentText.head_not_digit {e : Option (Bool × List Char)} (h : ExponentText e s) :
    ∀ c ∈ s.head?, c.isDigit = false := by
  cases h with
  | none => simp
  | some hmark => obtain rfl | rfl := hmark <;> simp

/-- The exponent that a text is, or that there is none where nothing is left. -/
def readTail : List Char → Option (Option (Bool × List Char))
  | [] => some none
  | mark :: s => if mark = 'e' ∨ mark = 'E' then (Numeral.readExponent s).map some else none

theorem readTail_eq_some_iff {e : Option (Bool × List Char)} : readTail s = some e ↔ ExponentText e s := by
  constructor
  · intro h
    cases s with
    | nil =>
        obtain rfl := Option.some_inj.mp h
        exact .none
    | cons mark s =>
        rw [readTail] at h
        split_ifs at h with hmark
        obtain ⟨⟨negative, digits⟩, hread, rfl⟩ := Option.map_eq_some_iff.mp h
        obtain ⟨hne, hdigits, sign, hsign, rfl⟩ := Numeral.readExponent_eq_some_iff.mp hread
        exact .some hmark hsign hne hdigits
  · intro h
    cases h with
    | none => rfl
    | @some negative mark sign digits hmark hsign hne hdigits =>
        have hread := Numeral.readExponent_eq_some_iff.mpr ⟨hne, hdigits, sign, hsign, rfl⟩
        rw [readTail, if_pos hmark, hread]
        rfl

/-- The point and the digits behind it, where there is one, and what follows. -/
def splitFraction : List Char → Option (List Char) × List Char
  | '.' :: s => (some (s.takeWhile Char.isDigit), s.dropWhile Char.isDigit)
  | s => (none, s)

theorem splitFraction_spec (s : List Char) :
    (∀ c ∈ (splitFraction s).1.getD [], c.isDigit = true) ∧ s = fractionText (splitFraction s).1 ++ (splitFraction s).2 := by
  unfold splitFraction
  split
  · refine ⟨fun c hc => List.mem_takeWhile_imp hc, ?_⟩
    exact congrArg ('.' :: ·) List.takeWhile_append_dropWhile.symm
  · exact ⟨by simp, rfl⟩

theorem splitFraction_append {fraction : Option (List Char)} {e : Option (Bool × List Char)}
    (hfraction : ∀ c ∈ fraction.getD [], c.isDigit = true) (htail : ExponentText e rest) :
    splitFraction (fractionText fraction ++ rest) = (fraction, rest) := by
  cases fraction with
  | none =>
      rw [fractionText, List.nil_append, splitFraction]
      rintro s rfl
      cases htail with
      | some hmark => simp at hmark
  | some digits =>
      rw [Option.getD_some] at hfraction
      rw [fractionText, List.cons_append, splitFraction, takeWhile_append_of_head hfraction htail.head_not_digit,
        dropWhile_append_of_head hfraction htail.head_not_digit]

theorem Numeral.readUnsigned_eq (negative : Bool) (s : List Char) : Numeral.readUnsigned negative s =
    let whole := s.takeWhile Char.isDigit
    let parts := splitFraction (s.dropWhile Char.isDigit)
    if whole ++ parts.1.getD [] = [] then none
    else (readTail parts.2).map fun e => ⟨negative, whole, parts.1, e⟩ := by
  have hread : Numeral.readUnsigned negative s =
      let whole := s.takeWhile Char.isDigit
      let parts := splitFraction (s.dropWhile Char.isDigit)
      if whole.isEmpty && (parts.1.getD []).isEmpty then none
      else match parts.2 with
        | [] => some ⟨negative, whole, parts.1, none⟩
        | mark :: r =>
          if mark = 'e' ∨ mark = 'E' then (Numeral.readExponent r).map fun e => ⟨negative, whole, parts.1, some e⟩
          else none := rfl
  rw [hread]
  cases splitFraction (s.dropWhile Char.isDigit) with
  | mk fraction rest =>
      simp only [List.append_eq_nil_iff, Bool.and_eq_true, List.isEmpty_iff]
      split_ifs
      · rfl
      · cases rest with
        | nil => rfl
        | cons mark r =>
            simp only [readTail]
            split_ifs
            · rw [Option.map_map]
              rfl
            · rfl

/-- A text behind a sign is read as the numeral that it says. -/
theorem Numeral.readUnsigned_eq_some_iff :
    Numeral.readUnsigned negative s = some n ↔ n.negative = negative ∧ n.IsUnsigned s := by
  rw [readUnsigned_eq]
  constructor
  · intro h
    obtain ⟨hfraction, hs⟩ := splitFraction_spec (s.dropWhile Char.isDigit)
    simp only at h
    split_ifs at h with hempty
    obtain ⟨e, he, rfl⟩ := Option.map_eq_some_iff.mp h
    refine ⟨rfl, hempty, ?_, _, readTail_eq_some_iff.mp he, ?_⟩
    · intro c hc
      obtain hc | hc := List.mem_append.mp hc
      · exact List.mem_takeWhile_imp hc
      · exact hfraction c hc
    · rw [List.append_assoc, ← hs, List.takeWhile_append_dropWhile]
  · rintro ⟨rfl, hne, hdigits, tail, htail, rfl⟩
    obtain ⟨hwhole, hfraction⟩ := List.forall_mem_append.mp hdigits
    have hhead : ∀ c ∈ (fractionText n.fraction ++ tail).head?, c.isDigit = false := by
      cases n.fraction with
      | none => exact htail.head_not_digit
      | some digits => simp [fractionText]
    rw [List.append_assoc, takeWhile_append_of_head hwhole hhead, dropWhile_append_of_head hwhole hhead,
      splitFraction_append hfraction htail]
    simp only
    unfold Numeral.digits at hne
    rw [if_neg hne, readTail_eq_some_iff.mpr htail]
    rfl

/-- A numeral begins with a digit or with the point. -/
theorem Numeral.IsUnsigned.exists_cons (h : n.IsUnsigned s) : ∃ c rest, s = c :: rest ∧ (c.isDigit = true ∨ c = '.') := by
  obtain ⟨hne, hdigits, tail, -, rfl⟩ := h
  obtain ⟨negative, whole, fraction, exponent⟩ := n
  cases whole with
  | cons c whole => exact ⟨c, _, rfl, .inl (hdigits c (by simp [digits]))⟩
  | nil =>
      cases fraction with
      | none => exact absurd rfl hne
      | some fraction => exact ⟨'.', _, rfl, .inr rfl⟩

end FilterQuery

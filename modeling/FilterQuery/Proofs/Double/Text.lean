import FilterQuery.Proofs.Double.Numeral
import FilterQuery.Proofs.Text.LetterCase
import Mathlib.Data.List.Forall2
import Mathlib.Tactic.SplitIfs

/-!
Texts that stand for doubles. Besides numerals there are the names of infinity and of NaN, in any letter case, and one sign may
stand before either. A text is never both, since a name begins with a letter. -/

namespace FilterQuery

/-- The text is the word, each of its letters small or capital. -/
def Spells (s word : List Char) : Prop :=
  List.Forall₂ (fun c letter => c = letter ∨ c = letter.toUpper) s word

def infinityNames : List (List Char) :=
  [['i', 'n', 'f'], ['i', 'n', 'f', 'i', 'n', 'i', 't', 'y']]

def nanName : List Char :=
  ['n', 'a', 'n']

/-- The text is a name of infinity or NaN, with one sign at most. -/
def SpellsNonFinite (s : List Char) : Prop :=
  ∃ negative sign name word, SignText negative sign ∧ word ∈ nanName :: infinityNames ∧ Spells name word ∧ s = sign ++ name

namespace DoubleText

/-- What stands behind the sign. -/
def IsUnsigned (negative : Bool) : DoubleText → List Char → Prop
  | numeral n, s => n.negative = negative ∧ n.IsUnsigned s
  | infinity b, s => b = negative ∧ ∃ word ∈ infinityNames, Spells s word
  | nan, s => Spells s nanName

/-- The text is written for the number. -/
def IsWritten (t : DoubleText) (s : List Char) : Prop :=
  ∃ negative sign rest, SignText negative sign ∧ t.IsUnsigned negative rest ∧ s = sign ++ rest

end DoubleText

variable {s word : List Char} {t : DoubleText} {n : Numeral} {negative : Bool}

/-! ### Names in any letter case -/

theorem spells_iff (h : word.all Char.isLower = true) : Spells s word ↔ s.map Char.toLower = word := by
  rw [Spells, ← List.forall₂_eq_eq_eq, List.forall₂_map_left_iff]
  constructor
  · intro hspells
    induction hspells with
    | nil => exact .nil
    | cons hc _ ih =>
        obtain ⟨hletter, hword⟩ := Bool.and_eq_true_iff.mp h
        exact .cons ((Text.toLower_eq_iff hletter).mpr hc) (ih hword)
  · intro hequal
    induction hequal with
    | nil => exact .nil
    | cons hc _ ih =>
        obtain ⟨hletter, hword⟩ := Bool.and_eq_true_iff.mp h
        exact .cons ((Text.toLower_eq_iff hletter).mp hc) (ih hword)

theorem spells_nan_iff : Spells s nanName ↔ s.map Char.toLower = nanName :=
  spells_iff (by decide)

theorem spells_infinity_iff : (∃ word ∈ infinityNames, Spells s word) ↔ s.map Char.toLower ∈ infinityNames := by
  have hsmall : ∀ word ∈ infinityNames, word.all Char.isLower = true := by decide
  constructor
  · rintro ⟨word, hword, hspells⟩
    rwa [(spells_iff (hsmall word hword)).mp hspells]
  · exact fun h => ⟨_, h, (spells_iff (hsmall _ h)).mpr rfl⟩

/-! ### How names and numerals begin -/

theorem not_digit_of_letter {c : Char} (h : c ∈ ['i', 'I', 'n', 'N']) :
    c.isDigit = false ∧ c ≠ '.' ∧ c ≠ '+' ∧ c ≠ '-' := by
  simp only [List.mem_cons, List.not_mem_nil, or_false] at h
  obtain rfl | rfl | rfl | rfl := h <;> decide

theorem Spells.exists_cons (hword : word ∈ nanName :: infinityNames) (h : Spells s word) :
    ∃ c rest, s = c :: rest ∧ c ∈ ['i', 'I', 'n', 'N'] := by
  simp only [nanName, infinityNames, List.mem_cons, List.not_mem_nil, or_false] at hword
  obtain rfl | rfl | rfl := hword <;> cases h with
    | cons hc _ => obtain rfl | rfl := hc <;> exact ⟨_, _, rfl, by decide⟩

/-- No name is a numeral. -/
theorem Numeral.IsUnsigned.not_spells (h : n.IsUnsigned s) (hword : word ∈ nanName :: infinityNames) :
    ¬Spells s word := by
  intro hspells
  obtain ⟨c, rest, rfl, hc⟩ := h.exists_cons
  obtain ⟨letter, _, heq, hletter⟩ := hspells.exists_cons hword
  obtain ⟨rfl, rfl⟩ := List.cons.inj heq
  obtain ⟨hdigit, hpoint, -, -⟩ := not_digit_of_letter hletter
  obtain hc | hc := hc
  · cases hdigit.symm.trans hc
  · exact hpoint hc

namespace DoubleText

theorem IsUnsigned.head_not_sign (h : t.IsUnsigned negative s) : ∀ c ∈ s.head?, c ≠ '+' ∧ c ≠ '-' := by
  have hname : ∀ {word}, word ∈ nanName :: infinityNames → Spells s word → ∀ c ∈ s.head?, c ≠ '+' ∧ c ≠ '-' := by
    rintro word hword hspells
    obtain ⟨c, rest, rfl, hc⟩ := hspells.exists_cons hword
    obtain ⟨-, -, hsigns⟩ := not_digit_of_letter hc
    simpa using hsigns
  cases t with
  | numeral n =>
      obtain ⟨c, rest, rfl, hc⟩ := h.2.exists_cons
      obtain hdigit | rfl := hc
      · simpa using not_sign_of_isDigit hdigit
      · simp
  | infinity =>
      obtain ⟨-, word, hword, hspells⟩ := h
      exact hname (List.mem_cons_of_mem _ hword) hspells
  | nan => exact hname List.mem_cons_self h

/-! ### Whole texts -/

theorem readUnsigned_of_infinity (h : ∃ word ∈ infinityNames, Spells s word) :
    readUnsigned negative s = some (infinity negative) := by
  have hname : s.map Char.toLower ∈ infinityNames := spells_infinity_iff.mp h
  exact if_pos (by simpa [infinityNames] using hname)

theorem readUnsigned_of_not_infinity (h : ¬∃ word ∈ infinityNames, Spells s word) : readUnsigned negative s =
    if s.map Char.toLower = nanName then some nan else (Numeral.readUnsigned negative s).map numeral := by
  have hname : s.map Char.toLower ∉ infinityNames := mt spells_infinity_iff.mpr h
  exact if_neg (by simpa [infinityNames] using hname)

theorem readUnsigned_eq_some_iff : readUnsigned negative s = some t ↔ t.IsUnsigned negative s := by
  constructor
  · intro h
    by_cases hinfinity : ∃ word ∈ infinityNames, Spells s word
    · rw [readUnsigned_of_infinity hinfinity] at h
      obtain rfl := Option.some_inj.mp h
      exact ⟨rfl, hinfinity⟩
    rw [readUnsigned_of_not_infinity hinfinity] at h
    split_ifs at h with hnan
    · obtain rfl := Option.some_inj.mp h
      exact spells_nan_iff.mpr hnan
    · obtain ⟨n, hn, rfl⟩ := Option.map_eq_some_iff.mp h
      exact Numeral.readUnsigned_eq_some_iff.mp hn
  · intro h
    cases t with
    | numeral n =>
        have hinfinity : ¬∃ word ∈ infinityNames, Spells s word := fun ⟨_, hword, hspells⟩ =>
          h.2.not_spells (List.mem_cons_of_mem _ hword) hspells
        have hnan : s.map Char.toLower ≠ nanName := mt spells_nan_iff.mpr (h.2.not_spells List.mem_cons_self)
        rw [readUnsigned_of_not_infinity hinfinity, if_neg hnan, Numeral.readUnsigned_eq_some_iff.mpr h]
        rfl
    | infinity b =>
        obtain ⟨rfl, hinfinity⟩ := h
        exact readUnsigned_of_infinity hinfinity
    | nan =>
        have hnan : s.map Char.toLower = nanName := spells_nan_iff.mp h
        have hinfinity : ¬∃ word ∈ infinityNames, Spells s word := by
          rw [spells_infinity_iff, hnan]
          decide
        rw [readUnsigned_of_not_infinity hinfinity, if_pos hnan]

theorem read_eq (s : List Char) : read s = readUnsigned (splitSign s).1 (splitSign s).2 := by
  unfold read
  split
  · rfl
  · rfl
  · rw [splitSign] <;> assumption

/-- A text is read as what it is written for. -/
theorem read_eq_some_iff : read s = some t ↔ t.IsWritten s := by
  rw [read_eq]
  constructor
  · intro h
    obtain ⟨sign, hsign, hs⟩ := exists_sign s
    exact ⟨_, sign, _, hsign, readUnsigned_eq_some_iff.mp h, hs⟩
  · rintro ⟨negative, sign, rest, hsign, hrest, rfl⟩
    rw [splitSign_append hsign hrest.head_not_sign]
    exact readUnsigned_eq_some_iff.mpr hrest

/-- A text is written for a numeral, or for a number that is none, or for no number. -/
theorem written_cases (s : List Char) : (∃ n, (numeral n).IsWritten s) ∨
    (∃ t : DoubleText, t.IsWritten s ∧ ∀ n, t ≠ numeral n) ∨ ∀ t : DoubleText, ¬t.IsWritten s := by
  by_cases hwritten : ∃ t : DoubleText, t.IsWritten s
  · obtain ⟨t, ht⟩ := hwritten
    by_cases hnumeral : ∃ n, t = numeral n
    · obtain ⟨n, rfl⟩ := hnumeral
      exact .inl ⟨n, ht⟩
    · exact .inr (.inl ⟨t, ht, not_exists.mp hnumeral⟩)
  · exact .inr (.inr (not_exists.mp hwritten))

/-- What is written for no numeral spells an infinity or NaN. -/
theorem spellsNonFinite_iff : SpellsNonFinite s ↔ ∃ t : DoubleText, t.IsWritten s ∧ ∀ n, t ≠ numeral n := by
  constructor
  · rintro ⟨negative, sign, name, word, hsign, hword, hspells, rfl⟩
    obtain rfl | hinfinity := List.mem_cons.mp hword
    · exact ⟨nan, ⟨negative, sign, name, hsign, hspells, rfl⟩, nofun⟩
    · exact ⟨infinity negative, ⟨negative, sign, name, hsign, ⟨rfl, word, hinfinity, hspells⟩, rfl⟩, nofun⟩
  · rintro ⟨t, ⟨negative, sign, rest, hsign, hrest, rfl⟩, hother⟩
    cases t with
    | numeral n => exact absurd rfl (hother n)
    | infinity b =>
        obtain ⟨-, word, hword, hspells⟩ := hrest
        exact ⟨negative, sign, rest, word, hsign, List.mem_cons_of_mem _ hword, hspells, rfl⟩
    | nan => exact ⟨negative, sign, rest, nanName, hsign, List.mem_cons_self, hrest, rfl⟩

end DoubleText

end FilterQuery

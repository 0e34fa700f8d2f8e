import FilterQuery.Json.Write
import FilterQuery.Proofs.Json.Tokens

/-!
The text of a string or an integer is one token. Inside the quotes each character, escaped or not, leaves the machine with the
code unit of that character, and characters are never halves of surrogate pairs. The digits of an integer begin with a zero only
where there is no other, and they are read to their end before anything that a number cannot go on with. -/

namespace FilterQuery.Json

variable {s : State} {c : Char} {rest : List Char}

/-- A number cannot go on with this text. -/
def EndsNumber : List Char → Prop
  | [] => True
  | c :: _ => c.isDigit = false ∧ c ≠ '.' ∧ c ≠ 'e' ∧ c ≠ 'E'

/-- A text is these tokens, whatever stands behind it, as long as a number may end there. -/
def Spells (text : List Char) (ts : List Token) : Prop :=
  ∀ rest, EndsNumber rest → tokens (text ++ rest) = ts ++ tokens rest

/-! ### Strings -/

/-- Characters have code units of their own, none of which is half of a pair. -/
theorem charsOfUnits_toNat (cs : List Char) : charsOfUnits (cs.map Char.toNat) = some cs := by
  have hwhole (c : Char) : isHighSurrogate c.toNat = false ∧ isLowSurrogate c.toNat = false := by
    have hvalid : c.toNat < 0xd800 ∨ 0xdfff < c.toNat ∧ c.toNat < 0x110000 := c.valid
    simp only [isHighSurrogate, isLowSurrogate, Bool.and_eq_false_iff, decide_eq_false_iff_not]
    omega
  induction cs with
  | nil => rfl
  | cons c cs ih =>
      cases cs with
      | nil => simp [charsOfUnits, hwhole]
      | cons d cs =>
          rw [List.map_cons] at ih
          rw [List.map_cons, List.map_cons, charsOfUnits, ih]
          simp [hwhole]

theorem hexDigit?_digitChar : ∀ n < 16, hexDigit? (Nat.digitChar n) = some n := by
  decide

theorem tokensFrom_escape (units : List Nat) {e : Char} (he : e ≠ 'u') (h : simpleEscape? e = some c) :
    tokensFrom (.string units) ('\\' :: e :: rest) = tokensFrom (.string (c.toNat :: units)) rest := by
  have hfirst : step (.string units) '\\' = .go [] (.escape units) := rfl
  have hsecond : step (.escape units) e = .go [] (.string (c.toNat :: units)) := by
    simp only [step, if_neg he, h]
  rw [tokensFrom_cons_of_go hfirst, tokensFrom_cons_of_go hsecond]
  rfl

theorem tokensFrom_hex (units : List Nat) {high low : Nat} (hhigh : high < 16) (hlow : low < 16) (rest : List Char) :
    tokensFrom (.string units) ('\\' :: 'u' :: '0' :: '0' :: Nat.digitChar high :: Nat.digitChar low :: rest) =
      tokensFrom (.string ((high * 16 + low) :: units)) rest := by
  have hthird : step (.hex units 2 0) (Nat.digitChar high) = .go [] (.hex units 3 high) := by
    simp [step, hexDigit?_digitChar high hhigh]
  have hfourth : step (.hex units 3 high) (Nat.digitChar low) = .go [] (.string ((high * 16 + low) :: units)) := by
    simp [step, hexDigit?_digitChar low hlow]
  have hzeros (w : List Char) :
      tokensFrom (.string units) ('\\' :: 'u' :: '0' :: '0' :: w) = tokensFrom (.hex units 2 0) w := rfl
  rw [hzeros, tokensFrom_cons_of_go hthird, tokensFrom_cons_of_go hfourth]
  rfl

/-- How a character is written inside a string: by an escape of one letter, by an escape of its code unit, or as it is. -/
theorem escapeChar_cases (c : Char) :
    (∃ e, e ≠ 'u' ∧ simpleEscape? e = some c ∧ escapeChar c = ['\\', e]) ∨
      (c.toNat < 0x20 ∧
        escapeChar c = ['\\', 'u', '0', '0', Nat.digitChar (c.toNat / 16), Nat.digitChar (c.toNat % 16)]) ∨
      (c ≠ '"' ∧ c ≠ '\\' ∧ ¬c.toNat < 0x20 ∧ escapeChar c = [c]) := by
  unfold escapeChar
  iterate 7
    split
    case isTrue h =>
      subst h
      exact .inl ⟨_, by decide, rfl, rfl⟩
  split
  case isTrue hcontrol => exact .inr (.inl ⟨hcontrol, rfl⟩)
  case isFalse hquote hback _ _ _ _ _ hcontrol => exact .inr (.inr ⟨hquote, hback, hcontrol, rfl⟩)

/-- A character as it is written inside a string leaves its own code unit. -/
theorem tokensFrom_escapeChar (units : List Nat) (c : Char) (rest : List Char) :
    tokensFrom (.string units) (escapeChar c ++ rest) = tokensFrom (.string (c.toNat :: units)) rest := by
  obtain ⟨e, he, hmeans, heq⟩ | ⟨hcontrol, heq⟩ | ⟨hquote, hback, hcontrol, heq⟩ := escapeChar_cases c
  · rw [heq]
    exact tokensFrom_escape units he hmeans
  · have hhigh : c.toNat / 16 < 16 := by omega
    have hlow : c.toNat % 16 < 16 := by omega
    have hhex := tokensFrom_hex units hhigh hlow rest
    rw [Nat.div_add_mod'] at hhex
    rw [heq]
    exact hhex
  · have hstep : step (.string units) c = .go [] (.string (c.toNat :: units)) := by
      simp only [step, if_neg hquote, if_neg hback, if_neg hcontrol]
    rw [heq, List.singleton_append, tokensFrom_cons_of_go hstep]
    rfl

theorem tokensFrom_escaped (units : List Nat) (cs rest : List Char) :
    tokensFrom (.string units) (cs.flatMap escapeChar ++ rest) =
      tokensFrom (.string ((cs.map Char.toNat).reverse ++ units)) rest := by
  induction cs generalizing units with
  | nil => rfl
  | cons c cs ih =>
      rw [List.flatMap_cons, List.append_assoc, tokensFrom_escapeChar, ih, List.map_cons, List.reverse_cons,
        List.append_assoc, List.singleton_append]

/-- A string is written as one token that has its text. -/
theorem spells_writeString (s : String) : Spells (writeString s) [.string (some s)] := by
  intro rest _
  have hclose : step (.string (s.toList.map Char.toNat).reverse) '"' = .go [.string (some s)] .between := by
    simp [step, finishString, charsOfUnits_toNat]
  have hopen : step .between '"' = .go [] (.string []) := rfl
  rw [writeString, List.cons_append, List.cons_append, List.append_assoc, tokens, tokensFrom_cons_of_go hopen,
    List.nil_append, tokensFrom_escaped, List.append_nil, List.singleton_append, tokensFrom_cons_of_go hclose]
  rfl

/-! ### Numbers -/

theorem tokensFrom_endNumber {n : Numeral} (h : step s c = endNumber n c) :
    tokensFrom s (c :: rest) = finishNumber n :: tokens (c :: rest) := by
  have hbegin : step .between c = beginToken c := rfl
  rw [endNumber] at h
  rw [tokens]
  cases hc : beginToken c with
  | go done next =>
      rw [hc] at h hbegin
      rw [tokensFrom_cons_of_go h, tokensFrom_cons_of_go hbegin]
      rfl
  | stuck done =>
      rw [hc] at h hbegin
      rw [tokensFrom_cons_of_stuck h, tokensFrom_cons_of_stuck hbegin]
      rfl

theorem tokensFrom_number_of_ends {part : NumberPart} {n : Numeral} (hpart : part = .zero ∨ part = .whole)
    (hrest : EndsNumber rest) : tokensFrom (.number part n) rest = finishNumber n :: tokens rest := by
  cases rest with
  | nil => obtain rfl | rfl := hpart <;> rfl
  | cons c rest =>
      obtain ⟨hdigit, hpoint, hsmall, hcapital⟩ := hrest
      apply tokensFrom_endNumber
      obtain rfl | rfl := hpart <;> simp [step, stepNumber, hdigit, hpoint, hsmall, hcapital]

theorem tokensFrom_whole (negative : Bool) (before digits : List Char) (hdigits : ∀ c ∈ digits, c.isDigit = true)
    (hrest : EndsNumber rest) : tokensFrom (.number .whole ⟨negative, before.reverse, none, none⟩) (digits ++ rest) =
      .number ⟨negative, before ++ digits, none, none⟩ :: tokens rest := by
  induction digits generalizing before with
  | nil =>
      rw [List.nil_append, tokensFrom_number_of_ends (.inr rfl) hrest, List.append_nil]
      simp [finishNumber]
  | cons c digits ih =>
      obtain ⟨hc, hdigits⟩ := List.forall_mem_cons.mp hdigits
      have hstep : step (.number .whole ⟨negative, before.reverse, none, none⟩) c =
          .go [] (.number .whole ⟨negative, (before ++ [c]).reverse, none, none⟩) := by
        simp [step, stepNumber, hc]
      rw [List.cons_append, tokensFrom_cons_of_go hstep, List.nil_append, ih (before ++ [c]) hdigits, List.append_assoc,
        List.singleton_append]

/-- The digits of a number other than zero do not begin with a zero. -/
theorem exists_toDigits_eq_cons {n : Nat} (hn : 0 < n) : ∃ c cs, Nat.toDigits 10 n = c :: cs ∧ c ≠ '0' := by
  induction n using Nat.strongRecOn with
  | ind n ih =>
      obtain hsmall | hlarge := Nat.lt_or_ge n 10
      · refine ⟨Nat.digitChar n, [], Nat.toDigits_of_lt_base hsmall, ?_⟩
        rw [ne_eq, Nat.digitChar_eq_zero]
        omega
      · obtain ⟨c, cs, heq, hc⟩ := ih (n / 10) (by omega) (by omega)
        refine ⟨c, cs ++ [Nat.digitChar (n % 10)], ?_, hc⟩
        rw [Nat.toDigits_of_base_le (by decide) hlarge, heq, List.cons_append]

theorem step_between_of_digit (hdigit : c.isDigit = true) (hc : c ≠ '0') :
    step .between c = .go [] (.number .whole ⟨false, [c], none, none⟩) := by
  have hspace : ¬isSpace c = true := by
    intro hspace
    rw [Text.isDigit_of_isBlank (isBlank_of_isSpace hspace)] at hdigit
    cases hdigit
  simp only [step, beginToken, if_neg hspace, if_pos hdigit]
  split
  case h_9 => exact absurd rfl hc
  case h_13 => rfl
  all_goals cases hdigit

theorem step_sign_of_digit (hdigit : c.isDigit = true) (hc : c ≠ '0') :
    step (.number .sign ⟨true, [], none, none⟩) c = .go [] (.number .whole ⟨true, [c], none, none⟩) := by
  simp [step, stepNumber, hc, hdigit]

/-- A number other than zero, from its first digit on. -/
theorem tokensFrom_toDigits {n : Nat} (hn : 0 < n) (negative : Bool)
    (hstep : ∀ c, c.isDigit = true → c ≠ '0' → step s c = .go [] (.number .whole ⟨negative, [c], none, none⟩))
    (hrest : EndsNumber rest) :
    tokensFrom s (Nat.toDigits 10 n ++ rest) = .number ⟨negative, Nat.toDigits 10 n, none, none⟩ :: tokens rest := by
  obtain ⟨c, cs, heq, hc⟩ := exists_toDigits_eq_cons hn
  have hdigits : ∀ d ∈ c :: cs, d.isDigit = true := by
    intro d hd
    rw [← heq] at hd
    exact Nat.isDigit_of_mem_toDigits (by decide) (by decide) hd
  obtain ⟨hfirst, hothers⟩ := List.forall_mem_cons.mp hdigits
  rw [heq, List.cons_append, tokensFrom_cons_of_go (hstep c hfirst hc)]
  exact tokensFrom_whole negative [c] cs hothers hrest

/-- The digits of a number are the number. -/
theorem spells_toDigits (n : Nat) : Spells (Nat.toDigits 10 n) [.number ⟨false, Nat.toDigits 10 n, none, none⟩] := by
  intro rest hrest
  obtain rfl | hn := Nat.eq_zero_or_pos n
  · exact tokensFrom_number_of_ends (.inl rfl) hrest
  · exact tokensFrom_toDigits hn false (fun c => step_between_of_digit) hrest

/-- So are they behind a minus sign, unless the number is zero. -/
theorem spells_minus_toDigits {n : Nat} (hn : 0 < n) :
    Spells ('-' :: Nat.toDigits 10 n) [.number ⟨true, Nat.toDigits 10 n, none, none⟩] := by
  intro rest hrest
  have hsign : step .between '-' = .go [] (.number .sign ⟨true, [], none, none⟩) := rfl
  rw [List.cons_append, tokens, tokensFrom_cons_of_go hsign]
  exact tokensFrom_toDigits hn true (fun c => step_sign_of_digit) hrest

end FilterQuery.Json

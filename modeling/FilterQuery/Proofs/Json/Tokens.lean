import FilterQuery.Json.Token
import FilterQuery.Proofs.Text.Blank

/-!
What blanks do to the tokens of a text. The white space of JSON leaves them as they are at the beginning and at the end, since it
does to the machine what the end of the text does. Any other blank there can only stop it. What has to be known of the
machine is that no word it waits for holds a blank, which every step preserves. -/

namespace FilterQuery.Json

open Text (isBlank ne_of_isBlank)

variable {s next : State} {c : Char} {w rest spaces : List Char} {done : List Token}

theorem isBlank_of_isSpace (h : isSpace c = true) : isBlank c = true := by
  simp only [isSpace, Bool.or_eq_true, decide_eq_true_eq] at h
  obtain ((rfl | rfl) | rfl) | rfl := h <;> decide

/-! ### One character -/

/-- The machine waits for no blank inside a word. -/
def State.AwaitsNoBlank : State → Prop
  | .word expected rest _ => ∀ c ∈ expected :: rest, isBlank c = false
  | _ => True

theorem awaitsNoBlank_word {expected : Char} {rest : List Char} {token : Token}
    (h : (expected :: rest).all (fun c => !isBlank c) = true) : (State.word expected rest token).AwaitsNoBlank := by
  intro c hc
  simpa using List.all_eq_true.mp h c hc

theorem awaitsNoBlank_of_beginToken (h : beginToken c = .go done next) : next.AwaitsNoBlank := by
  unfold beginToken at h
  repeat' split at h
  all_goals cases h
  all_goals first | trivial | exact awaitsNoBlank_word (by decide)

theorem awaitsNoBlank_of_endNumber {n : Numeral} (h : endNumber n c = .go done next) : next.AwaitsNoBlank := by
  unfold endNumber at h
  split at h
  next hbegin =>
    cases h
    exact awaitsNoBlank_of_beginToken hbegin
  next => cases h

theorem awaitsNoBlank_of_stepNumber {part : NumberPart} {n : Numeral} (h : stepNumber part n c = .go done next) :
    next.AwaitsNoBlank := by
  cases part <;> simp only [stepNumber] at h
  all_goals repeat' split at h
  all_goals first | exact awaitsNoBlank_of_endNumber h | (cases h <;> trivial)

theorem State.AwaitsNoBlank.step (hs : s.AwaitsNoBlank) (h : step s c = .go done next) : next.AwaitsNoBlank := by
  cases s with
  | between => exact awaitsNoBlank_of_beginToken h
  | number part n => exact awaitsNoBlank_of_stepNumber h
  | word expected rest token =>
      simp only [Json.step] at h
      split at h
      · cases rest with
        | nil =>
            cases h
            trivial
        | cons r rs =>
            cases h
            exact fun c hc => hs c (List.mem_cons_of_mem _ hc)
      · cases h
  | string | escape | hex =>
      simp only [Json.step] at h
      repeat' split at h
      all_goals cases h <;> trivial

/-! ### Blanks -/

theorem beginToken_of_blank (hc : isBlank c = true) :
    beginToken c = if isSpace c = true then .go [] .between else .stuck [] := by
  unfold beginToken
  split
  · rfl
  split
  all_goals first | cases hc | rw [Text.isDigit_of_isBlank hc]
  rfl

/-- A number may stop after this part. -/
def NumberPart.mayEnd : NumberPart → Bool
  | .zero | .whole | .fraction | .exponent => true
  | _ => false

theorem finish_number (part : NumberPart) (n : Numeral) :
    finish (.number part n) = if part.mayEnd then [finishNumber n] else [.unreadable] := by
  cases part <;> rfl

theorem stepNumber_of_blank (hc : isBlank c = true) (part : NumberPart) (n : Numeral) :
    stepNumber part n c = if part.mayEnd then endNumber n c else .stuck [] := by
  have hdigit := Text.isDigit_of_isBlank hc
  have hzero : c ≠ '0' := ne_of_isBlank hc (by decide)
  have hpoint : c ≠ '.' := ne_of_isBlank hc (by decide)
  have hsmall : c ≠ 'e' := ne_of_isBlank hc (by decide)
  have hcapital : c ≠ 'E' := ne_of_isBlank hc (by decide)
  have hplus : c ≠ '+' := ne_of_isBlank hc (by decide)
  have hminus : c ≠ '-' := ne_of_isBlank hc (by decide)
  cases part <;> simp [stepNumber, NumberPart.mayEnd, hdigit, hzero, hpoint, hsmall, hcapital, hplus, hminus]

theorem hexDigit?_of_blank (hc : isBlank c = true) : hexDigit? c = none := by
  have hnat := Text.toNat_of_isBlank hc
  have hrange : ∀ low high : Char, 0x20 < low.toNat → high.toNat ≤ 0x7f → ¬(low ≤ c ∧ c ≤ high) := by
    rintro low high hlow hhigh ⟨hle, hge⟩
    have hle' : low.toNat ≤ c.toNat := hle
    have hge' : c.toNat ≤ high.toNat := hge
    omega
  rw [hexDigit?, if_neg (hrange '0' '9' (by decide) (by decide)), if_neg (hrange 'a' 'f' (by decide) (by decide)),
    if_neg (hrange 'A' 'F' (by decide) (by decide))]

theorem simpleEscape?_of_blank (hc : isBlank c = true) : simpleEscape? c = none := by
  unfold simpleEscape?
  split <;> first | cases hc | rfl

/-- A blank inside a token that is not a string stops the machine, unless a number ends there. -/
theorem step_of_blank (hc : isBlank c = true) (hs : s.AwaitsNoBlank) :
    step s c = match s with
      | .between => beginToken c
      | .number part n => if part.mayEnd then endNumber n c else .stuck []
      | .string units => if c.toNat < 0x20 then .stuck [] else .go [] (.string (c.toNat :: units))
      | _ => .stuck [] := by
  cases s with
  | between => rfl
  | number part n => exact stepNumber_of_blank hc part n
  | word expected rest token =>
      -- the letters of a word are never blank, so this is not the one that is awaited
      exact if_neg (ne_of_isBlank hc (hs expected List.mem_cons_self))
  | string units =>
      have hquote : c ≠ '"' := ne_of_isBlank hc (by decide)
      have hback : c ≠ '\\' := ne_of_isBlank hc (by decide)
      simp only [step, if_neg hquote, if_neg hback]
  | escape units =>
      have hunit : c ≠ 'u' := ne_of_isBlank hc (by decide)
      simp only [step, if_neg hunit, simpleEscape?_of_blank hc]
  | hex units count value => simp only [step, hexDigit?_of_blank hc]

theorem endNumber_of_blank (hc : isBlank c = true) (n : Numeral) :
    endNumber n c = if isSpace c = true then .go [finishNumber n] .between else .stuck [finishNumber n] := by
  rw [endNumber, beginToken_of_blank hc]
  by_cases hspace : isSpace c = true
  · rw [if_pos hspace, if_pos hspace]
  · rw [if_neg hspace, if_neg hspace]

/-- The white space of JSON does to a token under way what the end of the text does. -/
theorem step_space (hc : isSpace c = true) (hs : s.AwaitsNoBlank) :
    step s c = .stuck [] ∧ finish s = [.unreadable] ∨
      ∃ done next, step s c = .go done next ∧ next.AwaitsNoBlank ∧ finish s = done ++ finish next := by
  have hblank := isBlank_of_isSpace hc
  rw [step_of_blank hblank hs]
  cases s with
  | between => exact .inr ⟨[], .between, by simp only [beginToken_of_blank hblank, if_pos hc], trivial, rfl⟩
  | number part n =>
      rw [finish_number]
      by_cases hend : part.mayEnd = true
      · exact .inr ⟨[finishNumber n], .between, by simp only [if_pos hend, endNumber_of_blank hblank, if_pos hc], trivial,
          if_pos hend⟩
      · exact .inl ⟨if_neg hend, if_neg hend⟩
  | string units =>
      by_cases hcontrol : c.toNat < 0x20
      · exact .inl ⟨if_pos hcontrol, rfl⟩
      · exact .inr ⟨[], _, if_neg hcontrol, trivial, rfl⟩
  | word | escape | hex => exact .inl ⟨rfl, rfl⟩

/-- Any other blank stops the machine, unless it stands in a string. -/
theorem step_foreign (hc : isBlank c = true) (hspace : isSpace c = false) (hs : s.AwaitsNoBlank) :
    (∃ done, step s c = .stuck done) ∨ ∃ units, step s c = .go [] (.string units) := by
  have hspace' : ¬isSpace c = true := Bool.not_eq_true _ ▸ hspace
  rw [step_of_blank hc hs]
  cases s with
  | between => exact .inl ⟨[], by simp only [beginToken_of_blank hc, if_neg hspace']⟩
  | number part n =>
      simp only [endNumber_of_blank hc, if_neg hspace']
      split <;> exact .inl ⟨_, rfl⟩
  | string units =>
      by_cases hcontrol : c.toNat < 0x20
      · exact .inl ⟨[], if_pos hcontrol⟩
      · exact .inr ⟨_, if_neg hcontrol⟩
  | word | escape | hex => exact .inl ⟨[], rfl⟩

/-! ### Whole texts -/

theorem tokensFrom_cons_of_stuck (h : step s c = .stuck done) : tokensFrom s (c :: rest) = done ++ [.unreadable] := by
  rw [tokensFrom, h]

theorem tokensFrom_cons_of_go (h : step s c = .go done next) : tokensFrom s (c :: rest) = done ++ tokensFrom next rest := by
  rw [tokensFrom, h]
  cases done <;> rfl

/-- White space at the end is as good as no end. -/
theorem tokensFrom_spaces (hspaces : ∀ c ∈ spaces, isSpace c = true) (hs : s.AwaitsNoBlank) :
    tokensFrom s spaces = finish s := by
  induction spaces generalizing s with
  | nil => rfl
  | cons c spaces ih =>
      obtain ⟨hc, hspaces⟩ := List.forall_mem_cons.mp hspaces
      obtain ⟨hstep, hfinish⟩ | ⟨done, next, hstep, hnext, hfinish⟩ := step_space hc hs
      · rw [tokensFrom_cons_of_stuck hstep, hfinish, List.nil_append]
      · rw [tokensFrom_cons_of_go hstep, ih hspaces hnext, hfinish]

theorem tokensFrom_append_spaces (hspaces : ∀ c ∈ spaces, isSpace c = true) (hs : s.AwaitsNoBlank) (w : List Char) :
    tokensFrom s (w ++ spaces) = tokensFrom s w := by
  induction w generalizing s with
  | nil => exact tokensFrom_spaces hspaces hs
  | cons c w ih =>
      rw [List.cons_append]
      cases hstep : step s c with
      | stuck done => rw [tokensFrom_cons_of_stuck hstep, tokensFrom_cons_of_stuck hstep]
      | go done next => rw [tokensFrom_cons_of_go hstep, tokensFrom_cons_of_go hstep, ih (hs.step hstep)]

/-- A text that ends in any other blank cannot be read to its end, whatever comes before the blank. -/
theorem unreadable_suffix_tokensFrom (hc : isBlank c = true) (hspace : isSpace c = false) (hs : s.AwaitsNoBlank)
    (w : List Char) : [.unreadable] <:+ tokensFrom s (w ++ [c]) := by
  induction w generalizing s with
  | nil =>
      rw [List.nil_append]
      obtain ⟨done, hstep⟩ | ⟨units, hstep⟩ := step_foreign hc hspace hs
      · rw [tokensFrom_cons_of_stuck hstep]
        exact List.suffix_append _ _
      · -- inside a string the text ends before the string does
        rw [tokensFrom_cons_of_go hstep]
        exact List.suffix_refl _
  | cons d w ih =>
      rw [List.cons_append]
      cases hstep : step s d with
      | stuck done =>
          rw [tokensFrom_cons_of_stuck hstep]
          exact List.suffix_append _ _
      | go done next =>
          rw [tokensFrom_cons_of_go hstep]
          exact (ih (hs.step hstep)).trans (List.suffix_append _ _)

theorem tokens_spaces_append (hspaces : ∀ c ∈ spaces, isSpace c = true) (w : List Char) :
    tokens (spaces ++ w) = tokens w := by
  induction spaces with
  | nil => rfl
  | cons c spaces ih =>
      obtain ⟨hc, hspaces⟩ := List.forall_mem_cons.mp hspaces
      have hstep : step .between c = .go [] .between := by
        rw [step, beginToken_of_blank (isBlank_of_isSpace hc), if_pos hc]
      rw [← ih hspaces, List.cons_append, tokens, tokensFrom_cons_of_go hstep]
      rfl

theorem tokens_of_foreign_head (hc : isBlank c = true) (hspace : isSpace c = false) (w : List Char) :
    tokens (c :: w) = [.unreadable] := by
  have hstep : step .between c = .stuck [] := by
    rw [step, beginToken_of_blank hc, if_neg (Bool.not_eq_true _ ▸ hspace)]
  exact tokensFrom_cons_of_stuck hstep

theorem tokens_append_spaces (hspaces : ∀ c ∈ spaces, isSpace c = true) (w : List Char) :
    tokens (w ++ spaces) = tokens w :=
  tokensFrom_append_spaces hspaces (show State.between.AwaitsNoBlank from trivial) w

end FilterQuery.Json

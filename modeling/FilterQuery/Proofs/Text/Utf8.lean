import FilterQuery.Proofs.Text.Word
import FilterQuery.Proofs.Failure.Steps

/-!
Bytes as text. What stands at the head of a sequence is read as a character exactly where the bytes of that character stand
there, so a sequence is a text exactly where it is the bytes of one. -/

namespace FilterQuery.Text

theorem toNat_charOfNat {n : Nat} (h : n.isValidChar) : (Char.ofNat n).toNat = n := by
  rw [Char.ofNat, dif_pos h]
  rfl

/-- What a second byte is bounded by, besides that it continues a character. -/
theorem mayFollow_iff {first second : UInt8} : mayFollow first second = true ↔
    (first.toNat = 0xe0 → 0xa0 ≤ second.toNat) ∧ (first.toNat = 0xed → second.toNat ≤ 0x9f) ∧
      (first.toNat = 0xf0 → 0x90 ≤ second.toNat) ∧ (first.toNat = 0xf4 → second.toNat ≤ 0x8f) ∧
      second.toNat / 64 = 2 := by
  simp only [mayFollow, isContinuation]
  split_ifs <;> simp only [Bool.and_eq_true, decide_eq_true_eq, beq_iff_eq] <;> omega

/-! ### Sequences of one character -/

/-- The bytes of one character, by their number. -/
inductive Encodes : List UInt8 → Char → Prop
  | one {first : UInt8} (hfirst : first.toNat < 0x80) : Encodes [first] (Char.ofNat first.toNat)
  | two {first second : UInt8} (hfirst : 0xc2 ≤ first.toNat ∧ first.toNat ≤ 0xdf)
      (hsecond : isContinuation second = true) :
      Encodes [first, second] (Char.ofNat (first.toNat % 32 * 64 + continuationBits second))
  | three {first second third : UInt8} (hfirst : 0xe0 ≤ first.toNat ∧ first.toNat ≤ 0xef)
      (hsecond : mayFollow first second = true) (hthird : isContinuation third = true) :
      Encodes [first, second, third]
        (Char.ofNat ((first.toNat % 16 * 64 + continuationBits second) * 64 + continuationBits third))
  | four {first second third fourth : UInt8} (hfirst : 0xf0 ≤ first.toNat ∧ first.toNat ≤ 0xf4)
      (hsecond : mayFollow first second = true) (hthird : isContinuation third = true)
      (hfourth : isContinuation fourth = true) :
      Encodes [first, second, third, fourth]
        (Char.ofNat ((first.toNat % 8 * 64 + continuationBits second) * 4096 +
          (continuationBits third * 64 + continuationBits fourth)))

variable {bytes rest : List UInt8} {c : Char} {cs : List Char} {s : String}

/-- A sequence encodes the character that has these bytes. -/
theorem Encodes.utf8EncodeChar_eq (h : Encodes bytes c) : String.utf8EncodeChar c = bytes := by
  cases h with
  | @one first hfirst =>
      have hvalue := toNat_charOfNat (n := first.toNat) (.inl (by omega))
      rw [String.utf8EncodeChar, Char.toNat_val, hvalue, if_pos (by omega), UInt8.ofNat_toNat]
  | @two first second hfirst hsecond =>
      simp only [isContinuation, beq_iff_eq] at hsecond
      unfold continuationBits
      generalize hn : first.toNat % 32 * 64 + second.toNat % 64 = n
      have hvalue := toNat_charOfNat (n := n) (.inl (by omega))
      rw [String.utf8EncodeChar, Char.toNat_val, hvalue, if_neg (by omega), if_pos (by omega)]
      simp only [List.cons.injEq, and_true, ← UInt8.toNat_inj, UInt8.toNat_ofNat']
      omega
  | @three first second third hfirst hsecond hthird =>
      rw [mayFollow_iff] at hsecond
      simp only [isContinuation, beq_iff_eq] at hthird
      unfold continuationBits
      generalize hn : (first.toNat % 16 * 64 + second.toNat % 64) * 64 + third.toNat % 64 = n
      have hvalue := toNat_charOfNat (n := n) (by unfold Nat.isValidChar; omega)
      rw [String.utf8EncodeChar, Char.toNat_val, hvalue, if_neg (by omega), if_neg (by omega), if_pos (by omega)]
      simp only [List.cons.injEq, and_true, ← UInt8.toNat_inj, UInt8.toNat_ofNat']
      omega
  | @four first second third fourth hfirst hsecond hthird hfourth =>
      rw [mayFollow_iff] at hsecond
      simp only [isContinuation, beq_iff_eq] at hthird hfourth
      unfold continuationBits
      generalize hn :
        (first.toNat % 8 * 64 + second.toNat % 64) * 4096 + (third.toNat % 64 * 64 + fourth.toNat % 64) = n
      have hvalue := toNat_charOfNat (n := n) (by unfold Nat.isValidChar; omega)
      rw [String.utf8EncodeChar, Char.toNat_val, hvalue, if_neg (by omega), if_neg (by omega), if_neg (by omega)]
      simp only [List.cons.injEq, and_true, ← UInt8.toNat_inj, UInt8.toNat_ofNat']
      omega

/-- The bytes of a character encode it. -/
theorem encodes_utf8EncodeChar (c : Char) : Encodes (String.utf8EncodeChar c) c := by
  have hvalid : c.toNat < 0xd800 ∨ 0xdfff < c.toNat ∧ c.toNat < 0x110000 := c.valid
  suffices h : ∃ d, Encodes (String.utf8EncodeChar c) d ∧ d = c by
    obtain ⟨d, hd, rfl⟩ := h
    exact hd
  have hof {n : Nat} (hn : n = c.toNat) : Char.ofNat n = c := by rw [hn, Char.ofNat_toNat]
  rw [String.utf8EncodeChar, Char.toNat_val]
  split_ifs
  · refine ⟨_, .one ?_, hof ?_⟩ <;> rw [UInt8.toNat_ofNat'] <;> omega
  · refine ⟨_, .two ?_ ?_, hof ?_⟩ <;>
      simp only [isContinuation, continuationBits, beq_iff_eq, UInt8.toNat_ofNat'] <;> omega
  · refine ⟨_, .three ?_ ?_ ?_, hof ?_⟩ <;>
      simp only [mayFollow_iff, isContinuation, continuationBits, beq_iff_eq, UInt8.toNat_ofNat'] <;> omega
  · refine ⟨_, .four ?_ ?_ ?_ ?_, hof ?_⟩ <;>
      simp only [mayFollow_iff, isContinuation, continuationBits, beq_iff_eq, UInt8.toNat_ofNat'] <;> omega

/-! ### The head of a sequence -/

theorem utf8Head_of_encodes {first : UInt8} {others : List UInt8} (h : Encodes (first :: others) c) (rest : List UInt8) :
    utf8Head first (others ++ rest) = .char c (others.length + 1) := by
  cases h with
  | one hfirst =>
      simp only [utf8Head, List.nil_append]
      rw [if_pos hfirst]
      rfl
  | two hfirst hsecond =>
      simp only [utf8Head, List.cons_append, List.nil_append, if_pos hsecond]
      rw [if_neg (by omega), if_pos hfirst]
      rfl
  | three hfirst hsecond hthird =>
      simp only [utf8Head, List.cons_append, List.nil_append, if_pos hsecond, if_pos hthird]
      rw [if_neg (by omega), if_neg (by omega), if_pos hfirst]
      rfl
  | four hfirst hsecond hthird hfourth =>
      simp only [utf8Head, List.cons_append, List.nil_append, if_pos hsecond, if_pos hthird, if_pos hfourth]
      rw [if_neg (by omega), if_neg (by omega), if_neg (by omega), if_pos hfirst]
      rfl

/-- Where a character is read, its bytes stand at the head. -/
theorem exists_encodes_of_utf8Head {first : UInt8} {size : Nat} (h : utf8Head first rest = .char c size) :
    ∃ others tail, rest = others ++ tail ∧ Encodes (first :: others) c ∧ size = others.length + 1 := by
  simp only [utf8Head] at h
  split_ifs at h with hone htwo hthree hfour
  · obtain ⟨rfl, rfl⟩ := Utf8Head.char.inj h
    exact ⟨[], rest, rfl, .one hone, rfl⟩
  · split at h
    · cases h
    · split_ifs at h with hsecond
      obtain ⟨rfl, rfl⟩ := Utf8Head.char.inj h
      exact ⟨[_], _, rfl, .two htwo hsecond, rfl⟩
  · split at h
    · cases h
    · split_ifs at h with hsecond
      split at h
      · cases h
      · split_ifs at h with hthird
        obtain ⟨rfl, rfl⟩ := Utf8Head.char.inj h
        exact ⟨[_, _], _, rfl, .three hthree hsecond hthird, rfl⟩
  · split at h
    · cases h
    · split_ifs at h with hsecond
      split at h
      · cases h
      · split_ifs at h with hthird
        split at h
        · cases h
        · split_ifs at h with hfourth
          obtain ⟨rfl, rfl⟩ := Utf8Head.char.inj h
          exact ⟨[_, _, _], _, rfl, .four hfour hsecond hthird hfourth, rfl⟩

/-! ### Whole sequences -/

theorem decodeUtf8From_skip (index : Nat) (others rest : List UInt8) :
    decodeUtf8From index others.length (others ++ rest) = decodeUtf8From (index + others.length) 0 rest := by
  induction others generalizing index with
  | nil => rfl
  | cons b others ih =>
      rw [List.cons_append, List.length_cons, decodeUtf8From, ih (index + 1), Nat.add_assoc, Nat.add_comm 1]

theorem decodeUtf8From_of_encodes (h : Encodes bytes c) (index : Nat) (rest : List UInt8) :
    decodeUtf8From index 0 (bytes ++ rest) = (decodeUtf8From (index + bytes.length) 0 rest).map (c :: ·) := by
  obtain ⟨first, others, rfl⟩ : ∃ first others, bytes = first :: others := by cases h <;> exact ⟨_, _, rfl⟩
  rw [List.cons_append, decodeUtf8From, utf8Head_of_encodes h]
  simp only [Nat.add_sub_cancel]
  rw [decodeUtf8From_skip, List.length_cons, Nat.add_right_comm, Nat.add_assoc]

theorem decodeUtf8From_flatMap (index : Nat) (cs : List Char) :
    decodeUtf8From index 0 (cs.flatMap String.utf8EncodeChar) = .ok cs := by
  induction cs generalizing index with
  | nil => rfl
  | cons c cs ih =>
      rw [List.flatMap_cons, decodeUtf8From_of_encodes (encodes_utf8EncodeChar c), ih]
      rfl

/-- The bytes that are left get fewer with every character. -/
theorem eq_flatMap_of_decodeUtf8From {index : Nat} (h : decodeUtf8From index 0 bytes = .ok cs) :
    bytes = cs.flatMap String.utf8EncodeChar := by
  induction hn : bytes.length using Nat.strongRecOn generalizing bytes cs index with
  | ind n ih =>
      subst hn
      cases bytes with
      | nil =>
          obtain rfl := Except.ok.inj h
          rfl
      | cons first rest =>
          cases hhead : utf8Head first rest with
          | char c size =>
              obtain ⟨others, tail, rfl, hencodes, rfl⟩ := exists_encodes_of_utf8Head hhead
              rw [← List.cons_append, decodeUtf8From_of_encodes hencodes, map_eq_ok_iff] at h
              obtain ⟨ds, htail, rfl⟩ := h
              have hlength : tail.length < (first :: (others ++ tail)).length := by
                rw [List.length_cons, List.length_append]
                omega
              rw [List.flatMap_cons, ← ih _ hlength htail rfl, hencodes.utf8EncodeChar_eq, List.cons_append]
          | invalid size =>
              rw [decodeUtf8From, hhead] at h
              cases h
          | incomplete =>
              rw [decodeUtf8From, hhead] at h
              cases h

/-- Exactly the bytes of a text are read as that text. -/
theorem decodeUtf8_eq_ok_iff : decodeUtf8 bytes = .ok s ↔ bytes = utf8Bytes s := by
  rw [decodeUtf8, map_eq_ok_iff, utf8Bytes_eq_flatMap]
  constructor
  · rintro ⟨cs, hcs, rfl⟩
    rw [String.toList_ofList]
    exact eq_flatMap_of_decodeUtf8From hcs
  · rintro rfl
    exact ⟨s.toList, decodeUtf8From_flatMap 0 _, String.ofList_toList⟩

end FilterQuery.Text

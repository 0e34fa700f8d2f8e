import FilterQuery.Proofs.Text.Blank
import Mathlib.Data.List.Basic

/-!
The words of a text. A text is cut into words wherever there are blanks, however many: what stands between two of them, or at
either end, is as long as it can be. Its words say all about a text but how much white space it has and of which kind; and
two texts of which one has blanks where the other has none, inside a word, have different words. -/

namespace FilterQuery.Text

/-- The runs of characters that are not blank, as long as they can be, from left to right. -/
inductive Runs : List Char → List (List Char) → Prop
  | blank {s : List Char} (h : ∀ c ∈ s, isBlank c = true) : Runs s []
  | word {u w s : List Char} {ws : List (List Char)} (hu : ∀ c ∈ u, isBlank c = true) (hne : w ≠ [])
      (hw : ∀ c ∈ w, isBlank c = false) (hend : ∀ c ∈ s.head?, isBlank c = true) (h : Runs s ws) : Runs (u ++ w ++ s) (w :: ws)

variable {s u v a b w : List Char} {ws : List (List Char)} {c : Char}

/-! ### Words and blanks -/

theorem words_append_cons (hc : isBlank c = true) (a b : List Char) : words (a ++ c :: b) = words a ++ words b := by
  rw [words, List.splitOnP_append_cons a b hc, List.filter_append]
  rfl

theorem words_cons (hc : isBlank c = true) (s : List Char) : words (c :: s) = words s :=
  words_append_cons hc [] s

theorem words_append_left (hu : ∀ c ∈ u, isBlank c = true) (s : List Char) : words (u ++ s) = words s := by
  induction u with
  | nil => rfl
  | cons c u ih =>
      obtain ⟨hc, hu⟩ := List.forall_mem_cons.mp hu
      rw [List.cons_append, words_cons hc, ih hu]

theorem words_of_blank (h : ∀ c ∈ s, isBlank c = true) : words s = [] := by
  rw [← List.append_nil s, words_append_left h]
  rfl

/-- Blanks end a word, and it does not matter how many they are. -/
theorem words_append_between (hne : u ≠ []) (hu : ∀ c ∈ u, isBlank c = true) (a b : List Char) :
    words (a ++ u ++ b) = words a ++ words b := by
  cases u with
  | nil => exact absurd rfl hne
  | cons c u =>
      obtain ⟨hc, hu⟩ := List.forall_mem_cons.mp hu
      rw [List.append_assoc, List.cons_append, words_append_cons hc, words_append_left hu]

theorem words_append_right (hv : ∀ c ∈ v, isBlank c = true) (s : List Char) : words (s ++ v) = words s := by
  by_cases hne : v = []
  · rw [hne, List.append_nil]
  · have hnil : words ([] : List Char) = [] := rfl
    rw [← List.append_nil (s ++ v), words_append_between hne hv, hnil, List.append_nil]

theorem words_singleton (hne : w ≠ []) (hw : ∀ c ∈ w, isBlank c = false) : words w = [w] := by
  have hempty : w.isEmpty = false := List.isEmpty_eq_false_iff.mpr hne
  rw [words, List.splitOnP_eq_singleton hw, List.filter_cons_of_pos (by simp [hempty]), List.filter_nil]

/-! ### Runs -/

theorem words_word_append (hne : w ≠ []) (hw : ∀ c ∈ w, isBlank c = false) (hend : ∀ c ∈ s.head?, isBlank c = true) :
    words (w ++ s) = w :: words s := by
  cases s with
  | nil => rw [List.append_nil, words_singleton hne hw]; rfl
  | cons c s =>
      have hc : isBlank c = true := hend c rfl
      rw [words_append_cons hc, words_singleton hne hw, words_cons hc]
      rfl

theorem Runs.words_eq (h : Runs s ws) : words s = ws := by
  induction h with
  | blank h => exact words_of_blank h
  | word hu hne hw hend _ ih => rw [List.append_assoc, words_append_left hu, words_word_append hne hw hend, ih]

theorem Runs.cons (hc : isBlank c = true) (h : Runs s ws) : Runs (c :: s) ws := by
  cases h with
  | blank h => exact .blank (List.forall_mem_cons.mpr ⟨hc, h⟩)
  | word hu hne hw hend h => exact .word (List.forall_mem_cons.mpr ⟨hc, hu⟩) hne hw hend h

/-- A text that does not begin with a blank begins with its first word. -/
theorem Runs.exists_word (h : Runs (c :: s) ws) (hc : isBlank c = false) : ∃ w s' vs, c :: s = w ++ s' ∧ ws = w :: vs ∧
    w ≠ [] ∧ (∀ d ∈ w, isBlank d = false) ∧ (∀ d ∈ s'.head?, isBlank d = true) ∧ Runs s' vs := by
  generalize htext : c :: s = text at h
  cases h with
  | blank h =>
      subst htext
      cases hc.symm.trans (h c List.mem_cons_self)
  | @word u w s' vs hu hne hw hend h =>
      cases u with
      | nil => exact ⟨w, s', vs, rfl, rfl, hne, hw, hend, h⟩
      | cons d u =>
          obtain rfl : c = d := (List.cons.inj htext).1
          cases hc.symm.trans (hu c List.mem_cons_self)

theorem exists_runs (s : List Char) : ∃ ws, Runs s ws := by
  induction s with
  | nil => exact ⟨[], .blank (List.forall_mem_nil _)⟩
  | cons c s ih =>
      obtain ⟨ws, h⟩ := ih
      cases hc : isBlank c with
      | true => exact ⟨ws, h.cons hc⟩
      | false =>
          -- the character is a word of its own before a blank, and otherwise joins the word that comes first
          have hword {w : List Char} (hw : ∀ d ∈ w, isBlank d = false) : ∀ d ∈ c :: w, isBlank d = false :=
            List.forall_mem_cons.mpr ⟨hc, hw⟩
          have hnone : ∀ d ∈ ([] : List Char), isBlank d = true := List.forall_mem_nil _
          have hchar : ∀ d ∈ [c], isBlank d = false := hword (List.forall_mem_nil _)
          cases s with
          | nil => exact ⟨[[c]], .word (u := []) hnone (List.cons_ne_nil c []) hchar (by simp) (.blank hnone)⟩
          | cons d s =>
              cases hd : isBlank d with
              | true =>
                  have hend : ∀ e ∈ (d :: s).head?, isBlank e = true := by simpa using hd
                  exact ⟨[c] :: ws, .word (u := []) hnone (List.cons_ne_nil c []) hchar hend h⟩
              | false =>
                  obtain ⟨w, s', vs, heq, rfl, _, hw, hend, h⟩ := h.exists_word hd
                  rw [heq]
                  exact ⟨(c :: w) :: vs, .word (u := []) hnone (List.cons_ne_nil c w) (hword hw) hend h⟩

theorem runs_words (s : List Char) : Runs s (words s) := by
  obtain ⟨ws, h⟩ := exists_runs s
  rwa [h.words_eq]

/-- The words of a text are its runs. -/
theorem runs_iff : Runs s ws ↔ words s = ws := by
  refine ⟨Runs.words_eq, ?_⟩
  rintro rfl
  exact runs_words s

theorem Runs.of_mem (h : Runs s ws) (hmem : w ∈ ws) : w ≠ [] ∧ ∀ c ∈ w, isBlank c = false := by
  induction h with
  | blank => cases hmem
  | word _ hne hw _ _ ih =>
      obtain rfl | hmem := List.mem_cons.mp hmem
      · exact ⟨hne, hw⟩
      · exact ih hmem

/-- The characters of the words are those of the text that are not blank. -/
theorem Runs.flatten_eq (h : Runs s ws) : ws.flatten = s.filter fun c => !isBlank c := by
  induction h with
  | blank h =>
      refine (List.filter_eq_nil_iff.mpr fun c hc => ?_).symm
      simp [h c hc]
  | @word u w s ws hu _ hw _ _ ih =>
      have hblank : (u.filter fun c => !isBlank c) = [] := List.filter_eq_nil_iff.mpr fun c hc => by simp [hu c hc]
      have hkept : (w.filter fun c => !isBlank c) = w := List.filter_eq_self.mpr fun c hc => by simp [hw c hc]
      rw [List.flatten_cons, ih, List.filter_append, List.filter_append, hblank, hkept, List.nil_append]

/-- Texts that are put together without a blank make one word of the last of the first text and the first of the second. -/
theorem Runs.length_words_append_lt (h : Runs a ws) (hne : a ≠ []) (ha : ∀ c ∈ a.getLast?, isBlank c = false)
    (hc : isBlank c = false) : (words (a ++ c :: b)).length < ws.length + (words (c :: b)).length := by
  induction h with
  | @blank a h =>
      have hlast := List.getLast?_eq_some_getLast hne
      cases (h _ (List.getLast_mem hne)).symm.trans (ha _ hlast)
  | @word u w s ws hu hw hword hend h ih =>
      cases s with
      | nil =>
          obtain ⟨w', s', vs, heq, hwords, _, hword', hend', hs'⟩ := (runs_words (c :: b)).exists_word hc
          have hjoined : ∀ d ∈ w ++ w', isBlank d = false := List.forall_mem_append.mpr ⟨hword, hword'⟩
          have hne' : w ++ w' ≠ [] := List.append_ne_nil_of_left_ne_nil hw w'
          rw [hwords, heq, List.append_nil, List.append_assoc, words_append_left hu, ← List.append_assoc,
            words_word_append hne' hjoined hend', hs'.words_eq, List.length_cons, List.length_cons, List.length_cons]
          omega
      | cons d s =>
          have hlast : (u ++ w ++ d :: s).getLast? = (d :: s).getLast? :=
            List.getLast?_append_of_ne_nil _ (List.cons_ne_nil d s)
          have hrest := ih (List.cons_ne_nil d s) (hlast ▸ ha)
          rw [List.append_assoc, List.append_assoc, words_append_left hu, words_word_append hw hword (by simpa using hend),
            List.length_cons, List.length_cons]
          omega

/-- Words with a blank between two of them are read again. -/
theorem words_intercalate (h : ∀ w ∈ ws, w ≠ [] ∧ ∀ c ∈ w, isBlank c = false) (hc : isBlank c = true) :
    words ([c].intercalate ws) = ws := by
  induction ws with
  | nil => rfl
  | cons w ws ih =>
      obtain ⟨⟨hne, hw⟩, hws⟩ := List.forall_mem_cons.mp h
      cases ws with
      | nil => rw [List.intercalate_singleton, words_singleton hne hw]
      | cons v ws =>
          rw [List.intercalate_cons_cons, words_append_between (List.cons_ne_nil c []) (by simpa using hc), ih hws,
            words_singleton hne hw]
          rfl

theorem map_intercalate (f : Char → Char) (c : Char) (ws : List (List Char)) :
    ([c].intercalate ws).map f = [f c].intercalate (ws.map (List.map f)) := by
  induction ws with
  | nil => rfl
  | cons w ws ih =>
      cases ws with
      | nil => rw [List.map_singleton, List.intercalate_singleton, List.intercalate_singleton]
      | cons v ws =>
          have hrest : [f c].intercalate ((w :: v :: ws).map (List.map f)) =
              w.map f ++ [f c] ++ [f c].intercalate ((v :: ws).map (List.map f)) := List.intercalate_cons_cons
          rw [hrest, ← ih, List.intercalate_cons_cons, List.map_append, List.map_append, List.map_singleton]

end FilterQuery.Text

import FilterQuery.Proofs.Filter.StandsFor
import FilterQuery.Proofs.Text.LetterCase
import FilterQuery.Proofs.Text.Runs

/-!
The texts that name an operator. They are said word by word: the words of the text are those of the spelling, each letter of
ASCII small or capital. A text is normalized to a spelling exactly when it names the operator, since neither the blanks that
normalizing takes out nor the capitals it puts in change what the words are up to case. -/

namespace FilterQuery

namespace Operator

open Text (isBlank words Runs SameLetter runs_words)

/-- The text has the words of the spelling, in any case of the ASCII letters. -/
def IsNamedBy (op : Operator) (s : List Char) : Prop :=
  ∃ ws vs, Runs s ws ∧ Runs op.spelling.toList vs ∧ List.Forall₂ (List.Forall₂ SameLetter) ws vs

variable {op op' : Operator} {a b s t u v : List Char}

/-! ### Normal forms -/

theorem normalize_eq (s : List Char) : normalize s = [' '].intercalate ((words s).map (List.map Char.toUpper)) := by
  rw [normalize, Text.map_intercalate]
  rfl

theorem words_normalize (s : List Char) : words (normalize s) = (words s).map (List.map Char.toUpper) := by
  rw [normalize_eq, Text.words_intercalate ?_ rfl]
  intro w hw
  obtain ⟨v, hv, rfl⟩ := List.mem_map.mp hw
  obtain ⟨hne, hv⟩ := (runs_words s).of_mem hv
  refine ⟨mt List.map_eq_nil_iff.mp hne, ?_⟩
  simpa [Text.isBlank_toUpper] using hv

theorem normalize_eq_normalize_iff :
    normalize s = normalize t ↔ (words s).map (List.map Char.toUpper) = (words t).map (List.map Char.toUpper) := by
  constructor
  · intro h
    rw [← words_normalize, h, words_normalize]
  · intro h
    rw [normalize_eq, h, ← normalize_eq]

theorem normalize_spelling (op : Operator) : normalize op.spelling.toList = op.spelling.toList := by
  cases op <;> decide

theorem ofText?_eq_some_iff {text : String} :
    ofText? text = some op ↔ normalize text.toList = normalize op.spelling.toList := by
  unfold ofText?
  constructor
  · intro h
    have hfound := List.find?_some h
    rw [normalize_spelling, eq_of_beq hfound]
  · intro h
    rw [h]
    exact ofText?_spelling op

theorem isNamedBy_iff : op.IsNamedBy s ↔ normalize s = normalize op.spelling.toList := by
  rw [normalize_eq_normalize_iff, ← List.forall₂_eq_eq_eq, List.forall₂_map_left_iff, List.forall₂_map_right_iff]
  simp only [IsNamedBy, Text.runs_iff, Text.map_toUpper_eq_iff]
  constructor
  · rintro ⟨_, _, rfl, rfl, h⟩
    exact h
  · exact fun h => ⟨_, _, rfl, rfl, h⟩

theorem ofText?_iff {text : String} : ofText? text = some op ↔ op.IsNamedBy text.toList :=
  ofText?_eq_some_iff.trans isNamedBy_iff.symm

theorem IsNamedBy.unique (h : op.IsNamedBy s) (h' : op'.IsNamedBy s) : op = op' := by
  rw [← String.toList_ofList (l := s), ← ofText?_iff] at h h'
  exact Option.some.inj (h.symm.trans h')

/-! ### Gaps -/

/-- The characters of a text that are not blank, in capitals. -/
def letters (s : List Char) : List Char :=
  (s.filter fun c => !isBlank c).map Char.toUpper

theorem letters_eq_flatten (s : List Char) : letters s = ((words s).map (List.map Char.toUpper)).flatten := by
  rw [letters, ← (runs_words s).flatten_eq, List.map_flatten]

theorem letters_append_between (hu : ∀ c ∈ u, isBlank c = true) (a b : List Char) :
    letters (a ++ u ++ b) = letters (a ++ b) := by
  have hnil : (u.filter fun c => !isBlank c) = [] := List.filter_eq_nil_iff.mpr fun c hc => by simp [hu c hc]
  rw [letters, letters, List.filter_append, List.filter_append, List.filter_append, hnil, List.append_nil]

theorem mem_all (op : Operator) : op ∈ all := by
  cases op <;> decide

/-- No two spellings differ in nothing but their gaps. -/
theorem eq_of_letters_eq (h : letters op.spelling.toList = letters op'.spelling.toList) : op = op' := by
  have hall : ∀ op ∈ all, ∀ op' ∈ all, letters op.spelling.toList = letters op'.spelling.toList → op = op' := by decide
  exact hall op (mem_all op) op' (mem_all op') h

theorem IsNamedBy.letters_eq (h : op.IsNamedBy s) : letters s = letters op.spelling.toList := by
  rw [letters_eq_flatten, letters_eq_flatten, normalize_eq_normalize_iff.mp (isNamedBy_iff.mp h)]

theorem IsNamedBy.length_words (h : op.IsNamedBy s) : (words s).length = (words op.spelling.toList).length := by
  have hlength := congrArg List.length (normalize_eq_normalize_iff.mp (isNamedBy_iff.mp h))
  rwa [List.length_map, List.length_map] at hlength

/-- Of two texts of which one has blanks where the other has none, inside a word, at most one names an operator: both have the
same letters, so they would name the same one, but one of them has a word more. -/
theorem IsNamedBy.not_with_gap (ha : ∃ c ∈ a.getLast?, isBlank c = false) (hb : ∃ c ∈ b.head?, isBlank c = false) (hne : u ≠ [])
    (hu : ∀ c ∈ u, isBlank c = true) (h : op.IsNamedBy (a ++ b)) : ¬op'.IsNamedBy (a ++ u ++ b) := by
  intro h'
  have hletters := h'.letters_eq
  rw [letters_append_between hu, h.letters_eq] at hletters
  obtain rfl := eq_of_letters_eq hletters
  have hlength := h'.length_words
  rw [← h.length_words, Text.words_append_between hne hu, List.length_append] at hlength
  obtain ⟨c, hlast, hc⟩ := ha
  obtain ⟨d, hhead, hd⟩ := hb
  obtain ⟨b', rfl⟩ := List.head?_eq_some_iff.mp hhead
  have hane : a ≠ [] := by
    rintro rfl
    cases hlast
  have hlt := (runs_words a).length_words_append_lt (b := b') hane (by rw [hlast]; simpa using hc) hd
  omega

theorem ofText?_eq_none_iff {text : String} : ofText? text = none ↔ ∀ op : Operator, ¬op.IsNamedBy text.toList := by
  rw [Option.eq_none_iff_forall_ne_some]
  exact forall_congr' fun op => not_congr ofText?_iff

theorem ofText?_congr (h : words s = words t) : ofText? (String.ofList s) = ofText? (String.ofList t) := by
  have hnormal : normalize s = normalize t := normalize_eq_normalize_iff.mpr (by rw [h])
  rw [ofText?, ofText?, String.toList_ofList, String.toList_ofList, hnormal]

/-- A text is read as an operator exactly when its words are those of the spelling, up to the case of ASCII letters, and no text
names two. So blanks at the ends do not matter, and neither does how many blanks there are between two words or which; but a
word is no longer one with blanks put into it, and two words are none without blanks between them. A text that names no
operator is given back in the failure as it was written. -/
theorem ofText?_up_to_case_and_blanks :
    (∀ text op, ofText? text = some op ↔ op.IsNamedBy text.toList) ∧
    (∀ s op op', IsNamedBy op s → IsNamedBy op' s → op = op') ∧
    (∀ u s v, (∀ c ∈ u, isBlank c = true) → (∀ c ∈ v, isBlank c = true) →
      ofText? (String.ofList (u ++ s ++ v)) = ofText? (String.ofList s)) ∧
    (∀ a u v b, u ≠ [] → (∀ c ∈ u, isBlank c = true) → v ≠ [] → (∀ c ∈ v, isBlank c = true) →
      ofText? (String.ofList (a ++ u ++ b)) = ofText? (String.ofList (a ++ v ++ b))) ∧
    (∀ a u b, (∃ c ∈ a.getLast?, isBlank c = false) → (∃ c ∈ b.head?, isBlank c = false) →
      u ≠ [] → (∀ c ∈ u, isBlank c = true) →
      ((ofText? (String.ofList (a ++ b))).isSome → ofText? (String.ofList (a ++ u ++ b)) = none) ∧
      ((ofText? (String.ofList (a ++ u ++ b))).isSome → ofText? (String.ofList (a ++ b)) = none)) ∧
    ∀ field text value e, FilterNode.toTest field text value = .error e ↔
      (∀ op : Operator, ¬op.IsNamedBy text.toList) ∧ e = .unknownOperator text := by
  refine ⟨fun _ _ => ofText?_iff, fun _ _ _ => IsNamedBy.unique, ?_, ?_, ?_, ?_⟩
  · intro u s v hu hv
    exact ofText?_congr (by rw [Text.words_append_right hv, Text.words_append_left hu])
  · intro a u v b hne hu hne' hv
    exact ofText?_congr (by rw [Text.words_append_between hne hu, Text.words_append_between hne' hv])
  · intro a u b ha hb hne hu
    have hgap {op op' : Operator} (h : ofText? (String.ofList (a ++ b)) = some op)
        (h' : ofText? (String.ofList (a ++ u ++ b)) = some op') : False := by
      rw [ofText?_iff, String.toList_ofList] at h h'
      exact h.not_with_gap ha hb hne hu h'
    constructor
    · intro h
      obtain ⟨op, hop⟩ := Option.isSome_iff_exists.mp h
      exact Option.eq_none_iff_forall_ne_some.mpr fun _ h' => hgap hop h'
    · intro h
      obtain ⟨op, hop⟩ := Option.isSome_iff_exists.mp h
      exact Option.eq_none_iff_forall_ne_some.mpr fun _ h' => hgap h' hop
  · intro field text value e
    rw [← ofText?_eq_none_iff, FilterNode.toTest]
    cases ofText? text with
    | none => simp [eq_comm]
    | some op => simp

/-- The blanks of `Is Null` may be wide ones and may be doubled, not left out; an operator of two symbols takes none; and a letter
that is no letter of ASCII stands for itself. -/
theorem ofText?_of_is_null_with_wide_blanks :
    ofText? "\u3000Is\u00a0 Null\n" = some .isNull ∧ ofText? "isnull" = none ∧ ofText? "> =" = none ∧
    FilterNode.toTest "age" "i\u017f null" none = .error (.unknownOperator "i\u017f null") := by
  obtain ⟨hread, -, hends, hbetween, hgap, hfailure⟩ := ofText?_up_to_case_and_blanks
  have hblank {u : List Char} (h : u.all isBlank = true) : ∀ c ∈ u, isBlank c = true := List.all_eq_true.mp h
  refine ⟨?_, ?_, ?_, ?_⟩
  · have htrimmed := hends ['\u3000'] ['I', 's', '\u00a0', ' ', 'N', 'u', 'l', 'l'] ['\n'] (hblank rfl) (hblank rfl)
    have hsingle := hbetween ['I', 's'] ['\u00a0', ' '] [' '] ['N', 'u', 'l', 'l'] nofun (hblank rfl) nofun (hblank rfl)
    exact htrimmed.trans (hsingle.trans rfl)
  · exact (hgap ['i', 's'] [' '] ['n', 'u', 'l', 'l'] ⟨'s', rfl, rfl⟩ ⟨'n', rfl, rfl⟩ nofun (hblank rfl)).2 rfl
  · exact (hgap ['>'] [' '] ['='] ⟨'>', rfl, rfl⟩ ⟨'=', rfl, rfl⟩ nofun (hblank rfl)).1 rfl
  · refine (hfailure "age" "i\u017f null" none _).mpr ⟨fun op h => ?_, rfl⟩
    cases ((hread _ op).mpr h).symm.trans (rfl : ofText? "i\u017f null" = none)

end Operator

end FilterQuery

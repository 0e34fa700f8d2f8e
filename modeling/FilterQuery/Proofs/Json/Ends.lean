import FilterQuery.Json.Read
import FilterQuery.Proofs.Failure.Steps
import FilterQuery.Proofs.Json.Tokens
import Mathlib.Data.List.Induction

/-!
The two ends of a JSON text that is read. Nothing that reads a value takes the token for what is unreadable, so a text with such
a token at its end is never read to the end. Blanks around a text that is read are therefore white space of JSON, and trimming the
text does not change what is read. -/

namespace FilterQuery.Json

open Text (isBlank)

variable {α : Type} {reader : Reader α} {a : α} {text : String} {t : Token} {ts : List Token} {u v w : List Char}

/-! ### What is unreadable stays -/

theorem unreadable_suffix_of_cons (h : [.unreadable] <:+ t :: ts) (ht : t ≠ .unreadable) : [.unreadable] <:+ ts := by
  obtain heq | h := List.suffix_cons_iff.mp h
  · exact absurd (List.cons.inj heq).1.symm ht
  · exact h

/-- No reader gets past an unreadable token, in so many calls within calls. -/
structure Stays (calls : Nat) : Prop where
  value : ∀ ts, [.unreadable] <:+ ts → [.unreadable] <:+ (readValue calls ts).2
  items : ∀ ts, [.unreadable] <:+ ts → [.unreadable] <:+ (readItems calls ts).2.2
  members : ∀ ts, [.unreadable] <:+ ts → [.unreadable] <:+ (readMembers calls ts).2.2

variable {calls : Nat}

theorem Stays.value_succ (ih : Stays calls) (h : [.unreadable] <:+ ts) :
    [.unreadable] <:+ (readValue (calls + 1) ts).2 := by
  unfold readValue
  split
  case h_1 heq => cases heq
  case h_2 | h_3 | h_4 | h_5 => exact unreadable_suffix_of_cons h nofun
  case h_6 | h_8 => exact unreadable_suffix_of_cons (unreadable_suffix_of_cons h nofun) nofun
  case h_7 heq =>
      cases heq
      exact ih.items _ (unreadable_suffix_of_cons h nofun)
  case h_9 heq =>
      cases heq
      exact ih.members _ (unreadable_suffix_of_cons h nofun)
  case h_10 => exact h

theorem Stays.items_succ (ih : Stays calls) (h : [.unreadable] <:+ ts) :
    [.unreadable] <:+ (readItems (calls + 1) ts).2.2 := by
  have hvalue := ih.value ts h
  unfold readItems
  simp only
  split
  next rest hrest =>
    rw [hrest] at hvalue
    exact ih.items _ (unreadable_suffix_of_cons hvalue nofun)
  next rest hrest =>
    rw [hrest] at hvalue
    exact unreadable_suffix_of_cons hvalue nofun
  next => exact hvalue

theorem Stays.members_succ (ih : Stays calls) (h : [.unreadable] <:+ ts) :
    [.unreadable] <:+ (readMembers (calls + 1) ts).2.2 := by
  unfold readMembers
  split
  case h_1 heq => cases heq
  case h_2 heq =>
      cases heq
      have hvalue := ih.value _ (unreadable_suffix_of_cons (unreadable_suffix_of_cons h nofun) nofun)
      simp only
      split
      next rest hrest =>
        rw [hrest] at hvalue
        exact ih.members _ (unreadable_suffix_of_cons hvalue nofun)
      next rest hrest =>
        rw [hrest] at hvalue
        exact unreadable_suffix_of_cons hvalue nofun
      next => exact hvalue
  case h_3 heq _ =>
      cases heq
      exact ih.value _ h

theorem stays (calls : Nat) : Stays calls := by
  induction calls with
  | zero => exact ⟨fun _ h => h, fun _ h => h, fun _ h => h⟩
  | succ calls ih => exact ⟨fun _ => ih.value_succ, fun _ => ih.items_succ, fun _ => ih.members_succ⟩

/-! ### Texts that are read to the end -/

/-- A text is read where its document is read and nothing is left of it. -/
theorem read_eq_ok_iff : read reader text = .ok a ↔
    reader (Doc.ofText text.toList).1 = .ok a ∧ (Doc.ofText text.toList).2 = true := by
  have hread : read reader text =
      (reader (Doc.ofText text.toList).1 >>= fun a => Doc.close (Doc.ofText text.toList).2 >>= fun _ => .ok a) := rfl
  rw [hread, bind_eq_ok_iff]
  cases (Doc.ofText text.toList).2 with
  | true => simp [Doc.close, bind, Except.bind]
  | false => simp [Doc.close, bind, Except.bind]

/-- A text that is one document is read as the document is. -/
theorem read_of_ofText {d : Doc} (h : Doc.ofText text.toList = (d, true)) (reader : Reader α) :
    read reader text = reader d := by
  simp only [read, h]
  cases reader d <;> rfl

theorem not_unreadable_suffix_of_read (h : read reader text = .ok a) : ¬[.unreadable] <:+ tokens text.toList := by
  intro hsuffix
  have hrest : [.unreadable] <:+ (readValue (2 * (tokens text.toList).length + 1) (tokens text.toList)).2 :=
    (stays _).value _ hsuffix
  have hend : (readValue (2 * (tokens text.toList).length + 1) (tokens text.toList)).2.isEmpty = true :=
    (read_eq_ok_iff.mp h).2
  rw [List.isEmpty_iff.mp hend] at hrest
  cases List.eq_nil_of_suffix_nil hrest

/-- What a reader makes of a text depends on its tokens. -/
theorem read_congr {text' : String} (h : tokens text.toList = tokens text'.toList) (reader : Reader α) :
    read reader text = read reader text' := by
  have hdoc : Doc.ofText text.toList = Doc.ofText text'.toList := by rw [Doc.ofText, h, Doc.ofText]
  rw [read, hdoc, read]

/-! ### Blanks around a text -/

theorem isSpace_of_leading (hu : ∀ c ∈ u, isBlank c = true) (h : ¬[.unreadable] <:+ tokens (u ++ w)) :
    ∀ c ∈ u, isSpace c = true := by
  induction u with
  | nil => nofun
  | cons c u ih =>
      obtain ⟨hc, hu⟩ := List.forall_mem_cons.mp hu
      by_cases hspace : isSpace c = true
      · have hrest : tokens (c :: u ++ w) = tokens (u ++ w) :=
          tokens_spaces_append (List.forall_mem_singleton.mpr hspace) _
        rw [hrest] at h
        exact List.forall_mem_cons.mpr ⟨hspace, ih hu h⟩
      · rw [List.cons_append, tokens_of_foreign_head hc (Bool.not_eq_true _ ▸ hspace)] at h
        exact absurd (List.suffix_refl _) h

theorem isSpace_of_trailing (hv : ∀ c ∈ v, isBlank c = true) (h : ¬[.unreadable] <:+ tokens (w ++ v)) :
    ∀ c ∈ v, isSpace c = true := by
  induction v using List.reverseRecOn with
  | nil => nofun
  | append_singleton v c ih =>
      obtain ⟨hv, hc⟩ := List.forall_mem_append.mp hv
      rw [List.forall_mem_singleton] at hc
      rw [← List.append_assoc] at h
      by_cases hspace : isSpace c = true
      · rw [tokens_append_spaces (List.forall_mem_singleton.mpr hspace)] at h
        exact List.forall_mem_append.mpr ⟨ih hv h, List.forall_mem_singleton.mpr hspace⟩
      · exact absurd (unreadable_suffix_tokensFrom hc (Bool.not_eq_true _ ▸ hspace)
          (show State.between.AwaitsNoBlank from trivial) (w ++ v)) h

/-- Trimming a text that can be read does not change its tokens. -/
theorem tokens_trim (h : ¬[.unreadable] <:+ tokens w) : tokens (Text.trim w) = tokens w := by
  obtain ⟨u, v, hu, hv, heq⟩ := Text.exists_eq_trim w
  generalize Text.trim w = core at heq ⊢
  subst heq
  have hspaces : ∀ c ∈ v, isSpace c = true := isSpace_of_trailing hv h
  rw [tokens_append_spaces hspaces] at h ⊢
  exact (tokens_spaces_append (isSpace_of_leading hu h) core).symm

/-- Trimming a text that can be read does not change what is read. -/
theorem read_trim (h : read reader text = .ok a) : read reader (String.ofList (Text.trim text.toList)) = .ok a := by
  rw [← h]
  refine read_congr ?_ reader
  rw [String.toList_ofList]
  exact tokens_trim (not_unreadable_suffix_of_read h)

end FilterQuery.Json

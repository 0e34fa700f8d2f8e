import FilterQuery.Filter.Json
import FilterQuery.Proofs.Json.Ends

/-!
Texts that may hold no filter. What is read as a filter is read as the same filter where there need not be one. Trimming such a
text leaves its tokens as they are and does not make it longer; and if nothing were left of it, or only `null`, then it would
not have been a filter. -/

namespace FilterQuery

variable {text : String} {maxBytes maxDepth : Nat} {f : Filter} {node : FilterNode} {u v : String}

namespace Filter

theorem parse_eq_ok_iff : parse text maxBytes maxDepth = .ok f ↔
    text.utf8ByteSize ≤ maxBytes ∧ ∃ node, FilterNode.ofJson text = .ok node ∧ node.toFilterWithin maxDepth = .ok f := by
  rw [parse, ← Nat.not_lt]
  split
  next hlong => exact iff_of_false nofun fun h => h.1 hlong
  next hfits =>
    cases FilterNode.ofJson text with
    | error fault => simp
    | ok node => simp [hfits]

/-- Neither an empty text nor `null` is a node. -/
theorem exists_error_of_no_node {s : List Char} (h : s = [] ∨ s = ['n', 'u', 'l', 'l']) :
    ∃ fault, FilterNode.ofJson (String.ofList s) = .error fault := by
  obtain rfl | rfl := h
  · exact ⟨_, rfl⟩
  · exact ⟨_, rfl⟩

theorem parseOrNone_of_parse (h : parse text maxBytes maxDepth = .ok f) :
    parseOrNone text maxBytes maxDepth = .ok (some f) := by
  obtain ⟨hbytes, node, hnode, hfilter⟩ := parse_eq_ok_iff.mp h
  have htrimmed : FilterNode.ofJson (String.ofList (Text.trim text.toList)) = .ok node := Json.read_trim hnode
  have hsome : ¬(Text.trim text.toList = [] ∨ Text.trim text.toList = ['n', 'u', 'l', 'l']) := by
    intro hnone
    obtain ⟨fault, hfault⟩ := exists_error_of_no_node hnone
    rw [hfault] at htrimmed
    cases htrimmed
  have hparse : parse (String.ofList (Text.trim text.toList)) maxBytes maxDepth = .ok f :=
    parse_eq_ok_iff.mpr ⟨Nat.le_trans (Text.utf8ByteSize_trim_le text) hbytes, node, htrimmed, hfilter⟩
  rw [parseOrNone]
  simp only [if_neg hsome, hparse]
  rfl

theorem parseOrNone_append_blanks (hu : ∀ c ∈ u.toList, Text.isBlank c = true) (hv : ∀ c ∈ v.toList, Text.isBlank c = true)
    (text : String) (maxBytes maxDepth : Nat) :
    parseOrNone (u ++ text ++ v) maxBytes maxDepth = parseOrNone text maxBytes maxDepth := by
  have htrim : Text.trim (u ++ text ++ v).toList = Text.trim text.toList := by
    rw [String.toList_append, String.toList_append, Text.trim_append_right hv, Text.trim_append_left hu]
  rw [parseOrNone, htrim, parseOrNone]

/-- Whatever is read as a filter is read as the same filter where there may be none, and it does not matter there which blanks
stand around a text. -/
theorem parseOrNone_extends_parse (text : String) (maxBytes maxDepth : Nat) :
    (∀ f, parse text maxBytes maxDepth = .ok f → parseOrNone text maxBytes maxDepth = .ok (some f)) ∧
      ∀ u v : String, (∀ c ∈ u.toList, Text.isBlank c = true) → (∀ c ∈ v.toList, Text.isBlank c = true) →
        parseOrNone (u ++ text ++ v) maxBytes maxDepth = parseOrNone text maxBytes maxDepth :=
  ⟨fun _ => parseOrNone_of_parse, fun _ _ hu hv => parseOrNone_append_blanks hu hv text maxBytes maxDepth⟩

/-- A test of sixteen bytes, alone and between blanks that JSON does not know, which make it longer than the limit. -/
theorem parseOrNone_of_test_between_blanks :
    let text := "[\"a\",\"=\",\"null\"]"
    (∃ f, parse text 16 1 = .ok f ∧ parseOrNone text 16 1 = .ok (some f)) ∧
      parseOrNone ("\u00a0\n" ++ text ++ "\x0b ") 16 1 = parseOrNone text 16 1 := by
  intro text
  have hread : ∃ f, parse text 16 1 = .ok f := by
    rw [← exists_map_eq_ok_iff (f := fun _ => ())]
    exact ⟨(), by decide +kernel⟩
  obtain ⟨f, hf⟩ := hread
  obtain ⟨hsome, hblanks⟩ := parseOrNone_extends_parse text 16 1
  exact ⟨⟨f, hf, hsome f hf⟩, hblanks _ _ (List.all_eq_true.mp (by decide)) (List.all_eq_true.mp (by decide))⟩

end Filter

end FilterQuery

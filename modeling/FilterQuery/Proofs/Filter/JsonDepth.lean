import FilterQuery.Proofs.Filter.Contents
import FilterQuery.Proofs.Filter.Cutoff
import FilterQuery.Proofs.Filter.Optional
import FilterQuery.Proofs.Filter.StandsFor
import FilterQuery.Proofs.Json.Written

/-!
How deep a filter that is read from JSON can be. Each node takes one level of the JSON and the list of its parts takes another,
whether the node is an object or an array, so the levels that a text may have leave room for sixty-four nodes. From there on a
limit on the depth never cuts anything off. -/

namespace FilterQuery

namespace FilterNode

variable {n : FilterNode} {levels room : Nat} {doc : Json.Doc}

/-! ### Nodes -/

theorem depth_le_iff : n.depth ≤ room + 1 ↔ ∀ k, depthOfAll (n.content k).nodes ≤ room := by
  obtain ⟨field, operator, value, all, any⟩ := n
  rw [depth, Nat.add_le_add_iff_right, Nat.max_le]
  constructor
  · rintro ⟨hall, hany⟩ k
    cases k with
    | field | operator | value => exact Nat.zero_le room
    | all => exact hall
    | any => exact hany
  · intro h
    exact ⟨h .all, h .any⟩

theorem nodes_of_isBlank {c : Content} (h : c.IsBlank) : c.nodes = [] := by
  cases c <;> cases h <;> rfl

theorem nodes_of_readContent {parts : Json.Reader (List FilterNode)} {k : Member} {c : Content}
    (h : readContent levels parts k doc = .ok c) : c.nodes = [] ∨ parts doc = .ok c.nodes := by
  cases k with
  | field | operator | value =>
      obtain ⟨_, _, rfl⟩ := map_eq_ok_iff.mp h
      exact .inl rfl
  | all | any =>
      obtain ⟨ns, hns, rfl⟩ := map_eq_ok_iff.mp h
      exact .inr hns

/-- A node and the list of its parts take a level each. -/
theorem depth_of_read (h : read levels doc = .ok n) : 2 * n.depth ≤ levels + 1 := by
  induction levels using Nat.strongRecOn generalizing doc n with
  | ind levels ih =>
      obtain ⟨below, rfl, hcontent⟩ := content_of_read h
      have hdepth : n.depth ≤ below / 2 + 1 := by
        rw [depth_le_iff]
        intro k
        obtain hblank | ⟨x, hx⟩ := hcontent k
        · rw [nodes_of_isBlank hblank]
          exact Nat.zero_le _
        obtain hnil | hparts := nodes_of_readContent hx
        · rw [hnil]
          exact Nat.zero_le _
        obtain ⟨lower, items, rfl, _, hitems⟩ := readAll_eq_ok_iff.mp hparts
        rw [depthOfAll_le_iff]
        intro m hm
        obtain ⟨y, _, hy⟩ := exists_mem_of_forall₂ hitems hm
        have hpart := ih lower (by omega) hy
        omega
      omega

/-! ### Limits on the depth -/

/-- A limit that no node exceeds might as well not be there. -/
theorem toFilterAt_of_depth_le {max depth : Nat} {n : FilterNode} (h : depth + n.depth ≤ max + 1) :
    n.toFilterAt (some max) depth = n.toFilterAt none depth := by
  induction depth, n using induction_within (some max) with
  | tooDeep depth n hdepth =>
      have hmax : max < depth := by simpa [isTooDeep] using hdepth
      have hpos := n.depth_pos
      omega
  | faulty depth n fault hdepth hkind => rw [toFilterAt_of_kind_error hdepth hkind, toFilterAt_of_kind_error rfl hkind]
  | test depth field text value hdepth hkind =>
      rw [toFilterAt_of_kind_test hdepth hkind, toFilterAt_of_kind_test rfl hkind]
  | group depth k nodes hdepth hne ih =>
      have hparts : ∀ n ∈ nodes, depth + 1 + n.depth ≤ max + 1 := by
        intro n hn
        have hpart := depthOfAll_le_iff.mp (Nat.le_refl (depthOfAll nodes)) n hn
        rw [depth_ofParts] at h
        omega
      rw [toFilterAt_ofParts hdepth k hne, toFilterAt_ofParts rfl k hne, toFiltersAt_eq_eachPart, toFiltersAt_eq_eachPart,
        eachPart_congr fun n hn => ih n hn (hparts n hn)]

theorem depthOfAll_eq_of_forall₂ {nodes : List FilterNode} {parts : List Filter} (h : List.Forall₂ StandsFor nodes parts)
    (hdepth : ∀ f ∈ parts, ∀ n : FilterNode, n.StandsFor f → f.depth = n.depth) :
    Filter.depthOfAll parts = depthOfAll nodes := by
  induction h with
  | nil => rfl
  | cons hn _ ih =>
      obtain ⟨hf, hparts⟩ := List.forall_mem_cons.mp hdepth
      rw [Filter.depthOfAll, depthOfAll, hf _ hn, ih hparts]

/-- A filter is as deep as the node that stands for it. -/
theorem StandsFor.depth_eq {f : Filter} (h : n.StandsFor f) : f.depth = n.depth := by
  induction f using Filter.induction generalizing n with
  | test t =>
      cases h
      rfl
  | group k parts ih =>
      cases h with
      | all _ hparts =>
          rw [Filter.depth, depth, depthOfAll_eq_of_forall₂ hparts fun f hf _ => ih f hf, depthOfAll, Nat.max_zero]
      | any _ hparts =>
          rw [Filter.depth, depth, depthOfAll_eq_of_forall₂ hparts fun f hf _ => ih f hf, depthOfAll, Nat.zero_max]

end FilterNode

namespace Filter

variable {text : String} {b d : Nat}

theorem depth_of_ofJson {n : FilterNode} (h : FilterNode.ofJson text = .ok n) : n.depth ≤ 64 := by
  have hlevels := FilterNode.depth_of_read (Json.read_eq_ok_iff.mp h).1
  rw [Json.maxDepth] at hlevels
  omega

theorem depth_of_parse {f : Filter} (h : parse text b d = .ok f) : f.depth ≤ min d 64 := by
  obtain ⟨_, n, hn, hf⟩ := parse_eq_ok_iff.mp h
  obtain ⟨hmax, hstands⟩ := FilterNode.toFilterAt_eq_ok_iff.mp hf
  have hlimit := hmax d rfl
  have hread := depth_of_ofJson hn
  rw [hstands.depth_eq]
  omega

theorem parse_of_depth_ge (h : 64 ≤ d) : parse text b d = parse text b 64 := by
  rw [parse, parse]
  split
  · rfl
  cases hnode : FilterNode.ofJson text with
  | error fault => rfl
  | ok n =>
      have hdepth := depth_of_ofJson hnode
      have hwide : 1 + n.depth ≤ d + 1 := by omega
      have hnarrow : 1 + n.depth ≤ 64 + 1 := by omega
      exact (FilterNode.toFilterAt_of_depth_le hwide).trans (FilterNode.toFilterAt_of_depth_le hnarrow).symm

/-- What a text fails at names no limit on the depth but its own. -/
theorem eq_of_root_of_parse {e : Failure} {max : Nat} (h : parse text b d = .error e) (hroot : e.root = .filterTooDeep max) :
    max = d := by
  rw [parse] at h
  split at h
  · obtain rfl := Except.error.inj h
    cases hroot
  split at h
  · obtain rfl := Except.error.inj h
    cases hroot
  · obtain hdepth | ⟨fault, hshape⟩ | ⟨op, hop⟩ := FilterNode.root_of_toFilterAt h
    · rw [hroot] at hdepth
      exact Failure.filterTooDeep.inj hdepth
    · cases hroot.symm.trans hshape
    · cases hroot.symm.trans hop

/-- A filter that is read is no deeper than the limit, nor than sixty-four nodes. Limits from sixty-four on all give the same,
and none of them is ever exceeded. -/
theorem parse_depth_le (text : String) (b d : Nat) :
    (∀ f, parse text b d = .ok f → f.depth ≤ min d 64) ∧
      (64 ≤ d → parse text b d = parse text b 64 ∧ ∀ e max, parse text b d = .error e → e.root ≠ .filterTooDeep max) := by
  refine ⟨fun f => depth_of_parse, fun hd => ⟨parse_of_depth_ge hd, ?_⟩⟩
  intro e max h hroot
  -- the same failure under two limits would have to name both of them
  rw [parse_of_depth_ge hd] at h
  have hwider : parse text b 65 = .error e := by rw [parse_of_depth_ge (by decide), h]
  have hlimits : 64 = 65 := (eq_of_root_of_parse h hroot).symm.trans (eq_of_root_of_parse hwider hroot)
  cases hlimits

/-- Sixty-three groups of one part each around a test: as deep as a text can say, and not too deep for any limit from there
on. -/
theorem parse_of_sixtyFour_nodes :
    let group (t : Json.Tree) : Json.Tree := .object [("or", .array [t])]
    let t : Json.Tree := Nat.repeat group 63 (.object [("op", .string "=")])
    let text := String.ofList t.compact
    let b := text.utf8ByteSize
    (∃ f, parse text b 1000 = .ok f ∧ f.depth = min 1000 64) ∧
      parse text b 1000 = parse text b 64 ∧ ∀ e max, parse text b 1000 = .error e → e.root ≠ .filterTooDeep max := by
  intro group t text b
  have hnumbers (n : Nat) : (Nat.repeat group n (.object [("op", .string "=")])).HasNumbers := by
    induction n with
    | zero => exact .object (by simpa using .string "=")
    | succ n ih => exact .object (by simpa using .array (by simpa using ih))
  have hnode : FilterNode.ofJson text = FilterNode.read Json.maxDepth t.doc := Json.Tree.read_compact (hnumbers 63) _
  have hdepth : (parse text b 1000).map depth = .ok 64 := by
    rw [parse, if_neg (Nat.lt_irrefl b), hnode]
    decide +kernel
  obtain ⟨f, hf, hdepth⟩ := map_eq_ok_iff.mp hdepth
  exact ⟨⟨f, hf, hdepth⟩, (parse_depth_le text b 1000).2 (by decide)⟩

end Filter

end FilterQuery

import FilterQuery.Proofs.Json.Scalars

/-!
The tokens of a tree that is written, which are the same in both layouts. What is written between two tokens is white space or
nothing, and nothing stands behind a number but what ends it, so the text is cut where the tree says. -/

namespace FilterQuery.Json

variable {text text' rest : List Char} {ts ts' : List Token}

/-! ### Texts side by side -/

theorem Spells.tokens_eq (h : Spells text ts) : tokens text = ts := by
  have hend := h [] trivial
  rwa [List.append_nil, show tokens [] = [] from rfl, List.append_nil] at hend

theorem endsNumber_of_isSpace {c : Char} (hc : isSpace c = true) (rest : List Char) : EndsNumber (c :: rest) := by
  simp only [isSpace, Bool.or_eq_true, decide_eq_true_eq] at hc
  obtain ((rfl | rfl) | rfl) | rfl := hc <;> exact ⟨rfl, by decide⟩

/-- White space in front of a text is not seen. -/
theorem Spells.after_spaces {spaces : List Char} (hspaces : ∀ c ∈ spaces, isSpace c = true) (h : Spells text ts) :
    Spells (spaces ++ text) ts := by
  intro rest hrest
  rw [List.append_assoc, tokens_spaces_append hspaces]
  exact h rest hrest

/-- Nor is white space behind it. -/
theorem Spells.before_spaces {spaces : List Char} (hspaces : ∀ c ∈ spaces, isSpace c = true) (h : Spells text ts) :
    Spells (text ++ spaces) ts := by
  intro rest hrest
  have hends : EndsNumber (spaces ++ rest) := by
    cases spaces with
    | nil => exact hrest
    | cons c spaces => exact endsNumber_of_isSpace (hspaces c List.mem_cons_self) _
  rw [List.append_assoc, h _ hends, tokens_spaces_append hspaces]

/-- A character that is a token of its own and no part of a number. -/
structure IsMark (c : Char) (t : Token) : Prop where
  step_eq : step .between c = .go [t] .between
  ends : ∀ rest, EndsNumber (c :: rest)

theorem IsMark.tokens_cons {c : Char} {t : Token} (hc : IsMark c t) (rest : List Char) :
    tokens (c :: rest) = t :: tokens rest :=
  tokensFrom_cons_of_go hc.step_eq

theorem isMark_comma : IsMark ',' .comma := ⟨rfl, fun _ => ⟨rfl, by decide⟩⟩

theorem isMark_colon : IsMark ':' .colon := ⟨rfl, fun _ => ⟨rfl, by decide⟩⟩

theorem isMark_arrayStart : IsMark '[' .arrayStart := ⟨rfl, fun _ => ⟨rfl, by decide⟩⟩

theorem isMark_arrayEnd : IsMark ']' .arrayEnd := ⟨rfl, fun _ => ⟨rfl, by decide⟩⟩

theorem isMark_objectStart : IsMark '\x7b' .objectStart := ⟨rfl, fun _ => ⟨rfl, by decide⟩⟩

theorem isMark_objectEnd : IsMark '\x7d' .objectEnd := ⟨rfl, fun _ => ⟨rfl, by decide⟩⟩

/-- Two texts with a mark between them. -/
theorem Spells.mark {c : Char} {t : Token} (hc : IsMark c t) (h : Spells text ts) (h' : Spells text' ts') :
    Spells (text ++ c :: text') (ts ++ t :: ts') := by
  intro rest hrest
  rw [List.append_assoc, List.cons_append, h _ (hc.ends _), hc.tokens_cons, h' rest hrest, List.append_assoc,
    List.cons_append]

/-- A text between two marks. -/
theorem Spells.enclose {first last : Char} {t t' : Token} (hfirst : IsMark first t) (hlast : IsMark last t')
    (h : Spells text ts) : Spells (first :: text ++ [last]) (t :: ts ++ [t']) := by
  intro rest _
  rw [List.append_assoc, List.singleton_append, List.cons_append, hfirst.tokens_cons, h _ (hlast.ends rest),
    hlast.tokens_cons]
  simp

/-! ### Trees -/

namespace Tree

/-- Wherever the tree has a number, its text is that of a number. -/
inductive HasNumbers : Tree → Prop
  | bool (b : Bool) : HasNumbers (.bool b)
  | number {text : List Char} {n : Numeral} (h : Spells text [.number n]) : HasNumbers (.number text)
  | string (s : String) : HasNumbers (.string s)
  | array {items : List Tree} (h : ∀ t ∈ items, HasNumbers t) : HasNumbers (.array items)
  | object {members : List (String × Tree)} (h : ∀ m ∈ members, HasNumbers m.2) : HasNumbers (.object members)

mutual

def tokens : Tree → List Token
  | .bool b => [.bool b]
  | .number text => Json.tokens text
  | .string s => [.string (some s)]
  | .array items => .arrayStart :: tokensOfItems items ++ [.arrayEnd]
  | .object members => .objectStart :: tokensOfMembers members ++ [.objectEnd]

def tokensOfItems : List Tree → List Token
  | [] => []
  | [t] => t.tokens
  | t :: u :: ts => t.tokens ++ .comma :: tokensOfItems (u :: ts)

def tokensOfMembers : List (String × Tree) → List Token
  | [] => []
  | [(name, t)] => .string (some name) :: .colon :: t.tokens
  | (name, t) :: m :: ms => .string (some name) :: .colon :: t.tokens ++ .comma :: tokensOfMembers (m :: ms)

end

variable {t : Tree} {items : List Tree} {members : List (String × Tree)}

theorem spells_bool (b : Bool) : Spells (Tree.bool b).compact [.bool b] := by
  intro rest _
  cases b <;> rfl

theorem spells_nil : Spells [] [] := fun _ _ => rfl

/-! ### On one line -/

theorem spells_compactItems (h : ∀ t ∈ items, Spells t.compact t.tokens) :
    Spells (compactItems items) (tokensOfItems items) := by
  induction items with
  | nil => exact spells_nil
  | cons t items ih =>
      obtain ⟨ht, hitems⟩ := List.forall_mem_cons.mp h
      cases items with
      | nil => exact ht
      | cons u items => exact ht.mark isMark_comma (ih hitems)

theorem spells_compactMembers (h : ∀ m ∈ members, Spells m.2.compact m.2.tokens) :
    Spells (compactMembers members) (tokensOfMembers members) := by
  induction members with
  | nil => exact spells_nil
  | cons m members ih =>
      obtain ⟨name, t⟩ := m
      obtain ⟨ht, hmembers⟩ := List.forall_mem_cons.mp h
      have hmember := (spells_writeString name).mark isMark_colon ht
      cases members with
      | nil => exact hmember
      | cons m members => exact hmember.mark isMark_comma (ih hmembers)

/-- A tree on one line has the tokens of the tree. -/
theorem spells_compact (h : t.HasNumbers) : Spells t.compact t.tokens := by
  induction h with
  | bool b => exact spells_bool b
  | number h =>
      rw [tokens, h.tokens_eq]
      exact h
  | string s => exact spells_writeString s
  | array _ ih => exact (spells_compactItems ih).enclose isMark_arrayStart isMark_arrayEnd
  | object _ ih => exact (spells_compactMembers ih).enclose isMark_objectStart isMark_objectEnd

/-! ### Over many lines -/

theorem isSpace_of_mem_newLine (level : Nat) : ∀ c ∈ newLine level, isSpace c = true := by
  intro c hc
  obtain rfl | hc := List.mem_cons.mp hc
  · rfl
  · obtain rfl := List.eq_of_mem_replicate hc
    rfl

theorem spells_indentedItems {level : Nat} (h : ∀ t ∈ items, Spells (t.indented level) t.tokens) :
    Spells (indentedItems level items) (tokensOfItems items) := by
  induction items with
  | nil => exact spells_nil
  | cons t items ih =>
      obtain ⟨ht, hitems⟩ := List.forall_mem_cons.mp h
      have hitem := ht.after_spaces (isSpace_of_mem_newLine level)
      cases items with
      | nil => exact hitem
      | cons u items => exact hitem.mark isMark_comma (ih hitems)

theorem spells_indentedMembers {level : Nat} (h : ∀ m ∈ members, Spells (m.2.indented level) m.2.tokens) :
    Spells (indentedMembers level members) (tokensOfMembers members) := by
  induction members with
  | nil => exact spells_nil
  | cons m members ih =>
      obtain ⟨name, t⟩ := m
      obtain ⟨ht, hmembers⟩ := List.forall_mem_cons.mp h
      have hname := (spells_writeString name).after_spaces (isSpace_of_mem_newLine level)
      have hblank : ∀ c ∈ [' '], isSpace c = true := List.forall_mem_singleton.mpr rfl
      have hmember := hname.mark isMark_colon (ht.after_spaces hblank)
      cases members with
      | nil => exact hmember
      | cons m members => exact hmember.mark isMark_comma (ih hmembers)

/-- A tree over many lines has the tokens of the tree. -/
theorem spells_indented (h : t.HasNumbers) (level : Nat) : Spells (t.indented level) t.tokens := by
  induction h generalizing level with
  | bool b => exact spells_bool b
  | number h =>
      rw [tokens, h.tokens_eq]
      exact h
  | string s => exact spells_writeString s
  | @array items _ ih =>
      have hitems := spells_indentedItems fun t ht => ih t ht (level + 1)
      cases items with
      | nil => exact hitems.enclose isMark_arrayStart isMark_arrayEnd
      | cons t items =>
          exact (hitems.before_spaces (isSpace_of_mem_newLine level)).enclose isMark_arrayStart isMark_arrayEnd
  | @object members _ ih =>
      have hmembers := spells_indentedMembers fun m hm => ih m hm (level + 1)
      cases members with
      | nil => exact hmembers.enclose isMark_objectStart isMark_objectEnd
      | cons m members =>
          exact (hmembers.before_spaces (isSpace_of_mem_newLine level)).enclose isMark_objectStart isMark_objectEnd

end Tree

end FilterQuery.Json

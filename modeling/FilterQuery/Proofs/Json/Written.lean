import FilterQuery.Proofs.Json.Ends
import FilterQuery.Proofs.Json.Layout

/-!
Reading what was written. The tokens of a tree are read as the document that the tree stands for, and what follows them is left
over; twice as many calls as there are tokens are enough. So a tree is read from its text in either layout as it is from the
document, whatever reads it. -/

namespace FilterQuery.Json

namespace Tree

mutual

/-- The document that a tree stands for. A number is what its own text is read as. -/
def doc : Tree → Doc
  | .bool b => .bool b
  | .number text => (Doc.ofText text).1
  | .string s => .string (some s)
  | .array items => .array (docOfItems items) true
  | .object members => .object (docOfMembers members) true

def docOfItems : List Tree → List Doc
  | [] => []
  | t :: ts => t.doc :: docOfItems ts

def docOfMembers : List (String × Tree) → List (Doc × Doc)
  | [] => []
  | (name, t) :: ms => (.string (some name), t.doc) :: docOfMembers ms

end

variable {t : Tree} {items : List Tree} {members : List (String × Tree)}

theorem docOfItems_eq_map (items : List Tree) : docOfItems items = items.map doc := by
  induction items with
  | nil => rfl
  | cons t items ih => rw [docOfItems, ih, List.map_cons]

theorem ofText_of_number {text : List Char} {n : Numeral} (h : Spells text [.number n]) :
    Doc.ofText text = (.number n, true) := by
  rw [Doc.ofText, h.tokens_eq]
  rfl

/-! ### From tokens to documents -/

/-- The tokens of the tree are read as its document, in any number of calls beyond twice their own number. -/
def IsRead (t : Tree) : Prop :=
  ∀ calls rest, 2 * t.tokens.length < calls → readValue calls (t.tokens ++ rest) = (t.doc, rest)

/-- The tokens of a tree do not begin with the end of an array. -/
theorem exists_tokens_eq_cons (h : t.HasNumbers) : ∃ first ts, t.tokens = first :: ts ∧ first ≠ .arrayEnd := by
  cases h with
  | number h => exact ⟨_, [], h.tokens_eq, nofun⟩
  | bool | string | array | object => exact ⟨_, _, rfl, nofun⟩

theorem readItems_tokens (hne : items ≠ []) (h : ∀ t ∈ items, t.IsRead) {calls : Nat} (rest : List Token)
    (hcalls : 2 * (tokensOfItems items).length + 1 < calls) :
    readItems calls (tokensOfItems items ++ .arrayEnd :: rest) = (docOfItems items, true, rest) := by
  induction items generalizing calls with
  | nil => exact absurd rfl hne
  | cons t items ih =>
      obtain ⟨ht, hitems⟩ := List.forall_mem_cons.mp h
      obtain ⟨calls, rfl⟩ := Nat.exists_eq_add_one_of_ne_zero (Nat.ne_zero_of_lt hcalls)
      cases items with
      | nil =>
          rw [tokensOfItems] at hcalls ⊢
          rw [readItems, ht calls _ (by omega)]
          rfl
      | cons u items =>
          rw [tokensOfItems, List.length_append, List.length_cons] at hcalls
          have hothers : 2 * (tokensOfItems (u :: items)).length + 1 < calls := by omega
          rw [tokensOfItems, List.append_assoc, List.cons_append, readItems, ht calls _ (by omega)]
          simp only [ih (List.cons_ne_nil u items) hitems hothers, docOfItems]

theorem readMembers_tokens (hne : members ≠ []) (h : ∀ m ∈ members, m.2.IsRead) {calls : Nat} (rest : List Token)
    (hcalls : 2 * (tokensOfMembers members).length + 1 < calls) :
    readMembers calls (tokensOfMembers members ++ .objectEnd :: rest) = (docOfMembers members, true, rest) := by
  induction members generalizing calls with
  | nil => exact absurd rfl hne
  | cons m members ih =>
      obtain ⟨name, t⟩ := m
      obtain ⟨ht, hmembers⟩ := List.forall_mem_cons.mp h
      obtain ⟨calls, rfl⟩ := Nat.exists_eq_add_one_of_ne_zero (Nat.ne_zero_of_lt hcalls)
      cases members with
      | nil =>
          rw [tokensOfMembers, List.length_cons, List.length_cons] at hcalls
          have hvalue : 2 * t.tokens.length < calls := by omega
          rw [tokensOfMembers, List.cons_append, List.cons_append, readMembers, ht calls _ hvalue]
          rfl
      | cons m members =>
          rw [tokensOfMembers, List.length_append, List.length_cons, List.length_cons, List.length_cons] at hcalls
          have hvalue : 2 * t.tokens.length < calls := by omega
          have hothers : 2 * (tokensOfMembers (m :: members)).length + 1 < calls := by omega
          rw [tokensOfMembers, List.append_assoc, List.cons_append, List.cons_append, List.cons_append, readMembers,
            ht calls _ hvalue]
          simp only [ih (List.cons_ne_nil m members) hmembers hothers, docOfMembers]

theorem readValue_arrayStart {first : Token} (h : first ≠ .arrayEnd) (calls : Nat) (ts : List Token) :
    readValue (calls + 1) (.arrayStart :: first :: ts) =
      (.array (readItems calls (first :: ts)).1 (readItems calls (first :: ts)).2.1, (readItems calls (first :: ts)).2.2) := by
  cases first <;> first | rfl | exact absurd rfl h

theorem readValue_objectStart (calls : Nat) (name : Option String) (ts : List Token) :
    readValue (calls + 1) (.objectStart :: .string name :: ts) =
      (.object (readMembers calls (.string name :: ts)).1 (readMembers calls (.string name :: ts)).2.1,
        (readMembers calls (.string name :: ts)).2.2) := rfl

theorem isRead_array (hnumbers : ∀ t ∈ items, t.HasNumbers) (h : ∀ t ∈ items, t.IsRead) : (array items).IsRead := by
  intro calls rest hcalls
  simp only [tokens, List.cons_append, List.length_append, List.length_cons, List.length_nil] at hcalls
  obtain ⟨calls, rfl⟩ := Nat.exists_eq_add_one_of_ne_zero (Nat.ne_zero_of_lt hcalls)
  cases items with
  | nil => rfl
  | cons t items =>
      have hitems := readItems_tokens (List.cons_ne_nil t items) h rest (by omega : _ + 1 < calls)
      have hfirst : ∃ first ts, tokensOfItems (t :: items) = first :: ts ∧ first ≠ .arrayEnd := by
        obtain ⟨first, ts, heq, hfirst⟩ := exists_tokens_eq_cons (hnumbers t List.mem_cons_self)
        cases items with
        | nil => exact ⟨first, ts, heq, hfirst⟩
        | cons u items => exact ⟨first, _, by rw [tokensOfItems, heq, List.cons_append], hfirst⟩
      obtain ⟨first, ts, heq, hfirst⟩ := hfirst
      simp only [tokens, heq, List.cons_append, List.append_assoc, List.nil_append] at hitems ⊢
      rw [readValue_arrayStart hfirst, hitems]
      rfl

theorem isRead_object (h : ∀ m ∈ members, m.2.IsRead) : (object members).IsRead := by
  intro calls rest hcalls
  simp only [tokens, List.cons_append, List.length_append, List.length_cons, List.length_nil] at hcalls
  obtain ⟨calls, rfl⟩ := Nat.exists_eq_add_one_of_ne_zero (Nat.ne_zero_of_lt hcalls)
  cases members with
  | nil => rfl
  | cons m members =>
      have hmembers := readMembers_tokens (List.cons_ne_nil m members) h rest (by omega : _ + 1 < calls)
      have hfirst : ∃ ts, tokensOfMembers (m :: members) = .string (some m.1) :: ts := by
        cases members with
        | nil | cons => exact ⟨_, rfl⟩
      obtain ⟨ts, heq⟩ := hfirst
      simp only [tokens, heq, List.cons_append, List.append_assoc, List.nil_append] at hmembers ⊢
      rw [readValue_objectStart, hmembers]
      rfl

theorem isRead (h : t.HasNumbers) : t.IsRead := by
  induction h with
  | bool | string =>
      intro calls rest hcalls
      obtain ⟨calls, rfl⟩ := Nat.exists_eq_add_one_of_ne_zero (Nat.ne_zero_of_lt hcalls)
      rfl
  | number h =>
      intro calls rest hcalls
      rw [tokens, h.tokens_eq] at hcalls ⊢
      obtain ⟨calls, rfl⟩ := Nat.exists_eq_add_one_of_ne_zero (Nat.ne_zero_of_lt hcalls)
      rw [doc, ofText_of_number h]
      rfl
  | array hnumbers ih => exact isRead_array hnumbers ih
  | object _ ih => exact isRead_object ih

/-! ### From texts to documents -/

theorem ofText_of_tokens (h : t.HasNumbers) {text : List Char} (htext : Json.tokens text = t.tokens) :
    Doc.ofText text = (t.doc, true) := by
  have hread := isRead h (2 * t.tokens.length + 1) [] (Nat.lt_succ_self _)
  rw [List.append_nil] at hread
  rw [Doc.ofText, htext, hread]
  rfl

theorem ofText_compact (h : t.HasNumbers) : Doc.ofText (String.ofList t.compact).toList = (t.doc, true) := by
  rw [String.toList_ofList]
  exact ofText_of_tokens h (spells_compact h).tokens_eq

theorem ofText_indented (h : t.HasNumbers) (level : Nat) :
    Doc.ofText (String.ofList (t.indented level)).toList = (t.doc, true) := by
  rw [String.toList_ofList]
  exact ofText_of_tokens h (spells_indented h level).tokens_eq

variable {α : Type}

/-- What reads a tree from one line reads its document. -/
theorem read_compact (h : t.HasNumbers) (reader : Reader α) : read reader (String.ofList t.compact) = reader t.doc :=
  read_of_ofText (ofText_compact h) reader

/-- So does what reads it from many lines. -/
theorem read_indented (h : t.HasNumbers) (level : Nat) (reader : Reader α) :
    read reader (String.ofList (t.indented level)) = reader t.doc :=
  read_of_ofText (ofText_indented h level) reader

end Tree

end FilterQuery.Json

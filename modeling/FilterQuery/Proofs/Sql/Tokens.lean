import FilterQuery.Proofs.Sql.Names

/-!
Statements as a database reads them. A text is cut into tokens from the left: what stands in backticks is a name, and outside
of them letters run on to words, digits to numbers and signs to comparisons, while every other character stands alone. Put one
behind the other, the tokens are the text. Two texts are read one after the other where nothing runs on from the first into
the second. -/

namespace FilterQuery.Sql

/-- A token of a statement: a name in backticks, or what stands outside of them. -/
inductive Token
  | name (n : String)
  | plain (cs : Text)

def isSign (c : Char) : Bool :=
  c = '=' || c = '!' || c = '<' || c = '>'

/-- Whether what begins with one character goes on with the next. A backtick behind another one is part of a name. -/
def runsOn (c d : Char) : Bool :=
  c.isAlpha && d.isAlpha || c.isDigit && d.isDigit || isSign c && isSign d || c = '\x60' && d = '\x60'

/-- Nothing runs on from one text into another. -/
def Apart (t u : Text) : Prop :=
  ∀ c ∈ t.getLast?, ∀ d ∈ u.head?, runsOn c d = false

namespace Token

def text : Token → Text
  | name n => quote n
  | plain cs => cs

/-- The tokens with one more character in front, which runs on into the first of them or stands alone. -/
def push (c : Char) : List Token → List Token
  | plain (d :: cs) :: ts => if runsOn c d then plain (c :: d :: cs) :: ts else plain [c] :: plain (d :: cs) :: ts
  | ts => plain [c] :: ts

theorem flatMap_text_push (c : Char) (ts : List Token) : (push c ts).flatMap text = c :: ts.flatMap text := by
  unfold push
  split
  · split <;> rfl
  · rfl

theorem push_ne_nil (c : Char) (ts : List Token) : push c ts ≠ [] := by
  unfold push
  split
  · split <;> simp
  · simp

theorem push_append (c : Char) {ts : List Token} (hts : ts ≠ []) (us : List Token) :
    push c (ts ++ us) = push c ts ++ us := by
  obtain ⟨t, ts, rfl⟩ := List.exists_cons_of_ne_nil hts
  match t with
  | name n => rfl
  | plain [] => rfl
  | plain (d :: cs) =>
      rw [List.cons_append, push, push]
      split <;> rfl

theorem push_of_apart {c : Char} {ts : List Token} (h : Apart [c] (ts.flatMap text)) : push c ts = plain [c] :: ts := by
  unfold push
  split
  · rename_i d cs ts
    have hcd : runsOn c d = false := h c rfl d rfl
    rw [if_neg (Bool.eq_false_iff.mp hcd)]
  · rfl

end Token

open Token

/-- The tokens of a text, where every backtick that opens a name is closed by another. -/
def tokens? : Text → Option (List Token)
  | [] => some []
  | c :: cs =>
    if c = '\x60' then
      match _h : readQuotedRest cs with
      | none => none
      | some (n, rest) => (tokens? rest).map (.name (String.ofList n) :: ·)
    else (tokens? cs).map (push c)
termination_by t => t.length
decreasing_by
  · rw [readQuotedRest_sound _h]
    simp
    omega
  · simp

theorem tokens?_nil : tokens? [] = some [] := by
  rw [tokens?]

theorem tokens?_cons {c : Char} (hc : c ≠ '\x60') (t : Text) : tokens? (c :: t) = (tokens? t).map (push c) := by
  rw [tokens?, if_neg hc]

theorem tokens?_quote_append (name : String) {t : Text} (ht : t.head? ≠ some '\x60') :
    tokens? (quote name ++ t) = (tokens? t).map (.name name :: ·) := by
  have hread := readQuotedRest_append name.toList t ht
  rw [quote, List.append_assoc, List.cons_append, tokens?, if_pos rfl]
  split
  · rename_i hnone
    rw [List.singleton_append, hread] at hnone
    cases hnone
  · rename_i n rest hsome
    rw [List.singleton_append, hread] at hsome
    obtain ⟨rfl, rfl⟩ := Prod.mk.inj (Option.some.inj hsome)
    rw [String.ofList_toList]

/-- The tokens of a text are the text. -/
theorem flatMap_text_of_tokens? {t : Text} {ts : List Token} (h : tokens? t = some ts) : ts.flatMap Token.text = t := by
  fun_induction tokens? t generalizing ts with
  | case1 =>
      obtain rfl := Option.some.inj h
      rfl
  | case2 => cases h
  | case3 cs n rest hread ih =>
      obtain ⟨us, hus, rfl⟩ := Option.map_eq_some_iff.mp h
      rw [List.flatMap_cons, ih hus, readQuotedRest_sound hread, Token.text, quote, String.toList_ofList]
      simp
  | case4 c cs hc ih =>
      obtain ⟨us, hus, rfl⟩ := Option.map_eq_some_iff.mp h
      rw [flatMap_text_push, ih hus]

/-! ### Reading piece by piece -/

def words (l : Text) : List Token :=
  l.foldr push []

theorem words_ne_nil {l : Text} (h : l ≠ []) : words l ≠ [] := by
  obtain ⟨c, l, rfl⟩ := List.exists_cons_of_ne_nil h
  exact push_ne_nil c (words l)

/-- A text that is read as the given tokens, and still is where something apart from it follows. -/
def Reads (t : Text) (ts : List Token) : Prop :=
  ∀ u, Apart t u → tokens? (t ++ u) = (tokens? u).map (ts ++ ·)

namespace Reads

variable {t u : Text} {ts us : List Token}

theorem tokens_eq (h : Reads t ts) : tokens? t = some ts := by
  have hread := h [] (by intro _ _ d hd; cases hd)
  rwa [List.append_nil, tokens?_nil, Option.map_some, List.append_nil] at hread

theorem nil : Reads [] [] := by
  intro u _
  simp

theorem append (ht : Reads t ts) (hu : Reads u us) (hapart : Apart t u) : Reads (t ++ u) (ts ++ us) := by
  intro v hv
  -- Where the second text is empty, it is the first one that meets what follows.
  cases u with
  | nil =>
      obtain rfl : [] = us := Option.some.inj (tokens?_nil.symm.trans hu.tokens_eq)
      rw [List.append_nil] at hv
      rw [List.append_nil, List.append_nil]
      exact ht v hv
  | cons d u =>
      have htu : Apart t (d :: u ++ v) := hapart
      have huv : Apart (d :: u) v := by
        simpa [Apart, List.getLast?_append] using hv
      rw [List.append_assoc, ht _ htu, hu v huv, Option.map_map]
      simp [Function.comp_def]

theorem quote (name : String) : Reads (Sql.quote name) [.name name] := by
  intro u hu
  apply tokens?_quote_append
  intro hhead
  have hlast : (Sql.quote name).getLast? = some '\x60' := List.getLast?_concat
  have hrun := hu _ hlast _ hhead
  cases hrun

theorem words (h : '\x60' ∉ t) : Reads t (words t) := by
  induction t with
  | nil => exact nil
  | cons c t ih =>
      rw [List.mem_cons, not_or] at h
      obtain ⟨hc, ht⟩ := h
      intro u hu
      rw [List.cons_append, tokens?_cons (Ne.symm hc)]
      -- Only the last character meets what follows the text; any other is pushed onto the words of the rest.
      cases t with
      | nil =>
          rw [List.nil_append]
          cases hus : tokens? u with
          | none => rfl
          | some us =>
              have hpush : push c us = .plain [c] :: us := by
                apply push_of_apart
                rwa [flatMap_text_of_tokens? hus]
              rw [Option.map_some, Option.map_some, hpush]
              rfl
      | cons d t =>
          have htu : Apart (d :: t) u := by
            simpa [Apart, List.getLast?_cons_cons] using hu
          have hne := words_ne_nil (List.cons_ne_nil d t)
          rw [ih ht u htu, Option.map_map]
          congr 1
          funext us
          exact push_append c hne us

end Reads

end FilterQuery.Sql

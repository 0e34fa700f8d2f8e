import FilterQuery.Proofs.Sql.Names
import FilterQuery.Proofs.Sql.Rendering
import FilterQuery.Proofs.Sql.Tokens

/-!
What the text of a filter can hold. Outside of names a statement has a fixed vocabulary and the width of its casts. A text is clean
when it is read as names that are given and as words of the vocabulary; clean texts may be put one behind the other where a mark
stands between them. The text of a filter is clean when what stands for its fields is. -/

namespace FilterQuery

namespace Sql

/-- The characters that stand alone between words. -/
def marks : List Char := [' ', '*', '(', ')', ',', '?']

/-- What stands outside of names, but for the width of the cast. -/
def vocabulary : List Text :=
  marks.map (fun c => [c]) ++
    ["=", "!=", "<", ">", "<=", ">=", "SELECT", "CAST", "AS", "CHAR", "FROM", "WHERE", "AND", "OR", "IN", "IS", "NOT", "NULL",
      "ORDER", "BY", "ASC", "LIMIT"].map String.toList

/-- The tokens of statements with the given names and the given width. -/
def Token.Allowed (names : String → Prop) (width : Nat) : Token → Prop
  | name n => isIdentifier n = true ∧ names n
  | plain cs => cs ∈ vocabulary ∨ cs = Nat.toDigits 10 width

/-- A printable ASCII character that neither opens a string, nor ends a statement, nor is the first of `#`, `--` or a comment
with a slash. -/
def isHarmless (c : Char) : Bool :=
  0x20 ≤ c.toNat && c.toNat ≤ 0x7e && !"'\";#-/\\".toList.contains c

/-- A piece of a statement that is the same in all of them: a text of the vocabulary. -/
def isPhrase (l : Text) : Bool :=
  !l.contains '\x60' && (words l).all fun
    | .name _ => false
    | .plain cs => vocabulary.contains cs

/-- A text that is read as allowed tokens. -/
def Clean (names : String → Prop) (width : Nat) (t : Text) : Prop :=
  ∃ ts, Reads t ts ∧ ∀ x ∈ ts, x.Allowed names width

theorem toNat_of_isNameChar {c : Char} (h : isNameChar c = true) : 0x20 ≤ c.toNat ∧ c.toNat ≤ 0x7e := by
  simp only [isNameChar, Bool.or_eq_true, decide_eq_true_eq] at h
  obtain (h | rfl) | rfl := h
  · delta Char.isAlphanum Char.isAlpha Char.isUpper Char.isLower Char.isDigit at h
    simp only [Bool.or_eq_true, Bool.and_eq_true, decide_eq_true_eq, ge_iff_le, UInt32.le_iff_toNat_le, Char.reduceVal,
      UInt32.reduceToNat] at h
    change _ ≤ c.val.toNat ∧ c.val.toNat ≤ _
    omega
  · decide
  · decide

theorem isHarmless_of_isNameChar {c : Char} (h : isNameChar c = true) : isHarmless c = true := by
  have hrange := toNat_of_isNameChar h
  have hother : c ∉ "'\";#-/\\".toList := by
    intro hc
    have hnone : ("'\";#-/\\".toList.all fun d => !isNameChar d) = true := by
      decide
    have hname := List.all_eq_true.mp hnone c hc
    rw [h] at hname
    cases hname
  simpa [isHarmless, hrange] using hother

theorem isDigit_of_mem_toDigits {width : Nat} {c : Char} (hc : c ∈ Nat.toDigits 10 width) : c.isDigit = true :=
  Nat.isDigit_of_mem_toDigits (by decide) (by decide) hc

/-- None of the characters of an allowed token does harm. -/
theorem Token.Allowed.isHarmless {names : String → Prop} {width : Nat} {t : Token} (h : t.Allowed names width) {c : Char}
    (hc : c ∈ t.text) : isHarmless c = true := by
  cases t with
  | name n =>
      obtain ⟨hname, _⟩ := h
      rw [Token.text, quote_of_isIdentifier hname, List.mem_append, List.mem_cons, List.mem_singleton] at hc
      rcases hc with (rfl | hc) | rfl
      · decide
      · exact isHarmless_of_isNameChar (isNameChar_of_mem_of_isIdentifier hname hc)
      · decide
  | plain cs =>
      obtain hword | rfl := h
      · have hall : (vocabulary.all fun cs => cs.all Sql.isHarmless) = true := by
          decide
        exact List.all_eq_true.mp (List.all_eq_true.mp hall cs hword) c hc
      · have hdigit := isDigit_of_mem_toDigits hc
        exact isHarmless_of_isNameChar (by simp [isNameChar, Char.isAlphanum, hdigit])

/-! ### Where texts may be joined -/

/-- A text before which nothing runs on: it is empty or begins with a mark. -/
def startsApart (t : Text) : Bool :=
  t.head?.all marks.contains

/-- A text that ends in a mark, after which nothing runs on. -/
def endsApart (t : Text) : Bool :=
  t.getLast?.any marks.contains

theorem runsOn_of_mem_marks {c : Char} (hc : c ∈ marks) (d : Char) : runsOn c d = false ∧ runsOn d c = false := by
  simp only [marks, List.mem_cons, List.not_mem_nil, or_false] at hc
  rcases hc with rfl | rfl | rfl | rfl | rfl | rfl <;> simp [runsOn, isSign]

theorem apart_of_startsApart {t u : Text} (h : startsApart u = true) : Apart t u := by
  intro c _ d hd
  rw [Option.mem_def] at hd
  rw [startsApart, hd, Option.all_some, List.contains_iff_mem] at h
  exact (runsOn_of_mem_marks h c).2

theorem apart_of_endsApart {t u : Text} (h : endsApart t = true) : Apart t u := by
  intro c hc d _
  rw [Option.mem_def] at hc
  rw [endsApart, hc, Option.any_some, List.contains_iff_mem] at h
  exact (runsOn_of_mem_marks h d).1

theorem endsApart_append {u : Text} (h : endsApart u = true) (t : Text) : endsApart (t ++ u) = true := by
  rw [endsApart, List.getLast?_append]
  cases hu : u.getLast? with
  | none =>
      rw [endsApart, hu] at h
      cases h
  | some c => rwa [endsApart, hu] at h

namespace Clean

variable {names : String → Prop} {width : Nat}

theorem nil : Clean names width [] := by
  refine ⟨[], .nil, ?_⟩
  intro x hx
  cases hx

theorem append {t u : Text} (ht : Clean names width t) (hu : Clean names width u) (h : Apart t u) :
    Clean names width (t ++ u) := by
  obtain ⟨ts, hts, htall⟩ := ht
  obtain ⟨us, hus, huall⟩ := hu
  refine ⟨ts ++ us, hts.append hus h, ?_⟩
  intro x hx
  obtain hx | hx := List.mem_append.mp hx
  · exact htall x hx
  · exact huall x hx

theorem phrase {l : Text} (h : isPhrase l = true) : Clean names width l := by
  simp only [isPhrase, Bool.and_eq_true, Bool.not_eq_true', List.all_eq_true] at h
  obtain ⟨htick, hwords⟩ := h
  refine ⟨words l, .words (by simpa using htick), ?_⟩
  intro x hx
  have hword := hwords x hx
  cases x with
  | name n => cases hword
  | plain cs => exact .inl (by simpa using hword)

theorem quote {name : String} (h : isIdentifier name = true) (hname : names name) : Clean names width (quote name) := by
  refine ⟨[.name name], .quote name, ?_⟩
  intro x hx
  obtain rfl := List.mem_singleton.mp hx
  exact ⟨h, hname⟩

theorem words_of_digits {l : Text} (hne : l ≠ []) (h : ∀ c ∈ l, c.isDigit = true) : words l = [.plain l] := by
  induction l with
  | nil => exact absurd rfl hne
  | cons c l ih =>
      obtain ⟨hc, hl⟩ := List.forall_mem_cons.mp h
      cases l with
      | nil => rfl
      | cons d l =>
          have hd : d.isDigit = true := hl d List.mem_cons_self
          have hrun : runsOn c d = true := by
            simp [runsOn, hc, hd]
          rw [words, List.foldr_cons]
          change Token.push c (words (d :: l)) = _
          rw [ih (List.cons_ne_nil d l) hl, Token.push, if_pos hrun]

theorem digits : Clean names width (Nat.toDigits 10 width) := by
  have hwords : words (Nat.toDigits 10 width) = [.plain (Nat.toDigits 10 width)] :=
    words_of_digits Nat.toDigits_ne_nil fun _ => isDigit_of_mem_toDigits
  refine ⟨_, .words ?_, ?_⟩
  · intro htick
    cases isDigit_of_mem_toDigits htick
  · rw [hwords]
    intro x hx
    obtain rfl := List.mem_singleton.mp hx
    exact .inr rfl

theorem between {l t r : Text} (ht : Clean names width t) (hl : isPhrase l = true ∧ endsApart l = true)
    (hr : isPhrase r = true ∧ startsApart r = true) : Clean names width (l ++ t ++ r) := by
  have hlt := (phrase hl.1).append ht (apart_of_endsApart hl.2)
  exact hlt.append (.phrase hr.1) (apart_of_startsApart hr.2)

theorem intercalate {sep : Text} {parts : List Text} (h : ∀ p ∈ parts, Clean names width p)
    (hsep : isPhrase sep = true ∧ startsApart sep = true ∧ endsApart sep = true) :
    Clean names width (sep.intercalate parts) := by
  obtain ⟨hphrase, hstart, hend⟩ := hsep
  induction parts with
  | nil => exact nil
  | cons p parts ih =>
      obtain ⟨hp, hparts⟩ := List.forall_mem_cons.mp h
      cases parts with
      | nil => simpa using hp
      | cons p' parts =>
          rw [List.intercalate_cons_cons]
          have hpsep := hp.append (.phrase hphrase) (apart_of_startsApart hstart)
          exact hpsep.append (ih hparts) (apart_of_endsApart (endsApart_append hend p))

end Clean

/-! ### Expressions, tests and filters -/

theorem isPhrase_spelling (op : Operator) : isPhrase (' ' :: op.spelling.toList) = true := by
  cases op <;> decide

theorem startsApart_operandText (op : Operator) (operands : List Text) :
    startsApart (operandText op operands) = true := by
  cases op <;> simp [operandText, startsApart, marks]

variable {names : String → Prop} {width : Nat}

theorem Clean.charCast {expr : Text} (h : Clean names width expr) : Clean names width (charCast expr width) := by
  have hopen := h.between (l := "CAST(".toList) (r := " AS CHAR(".toList) (by decide) (by decide)
  have hwidth := hopen.append .digits (apart_of_endsApart (endsApart_append (by decide) _))
  exact hwidth.append (u := "))".toList) (.phrase (by decide)) (apart_of_startsApart (by decide))

theorem Clean.operands {t : Test} (h : t.Fits) :
    Clean names width (operandText t.operator (t.arguments.map fun _ => placeholder)) := by
  have hlist (args : List Value) :
      Clean names width (" (".toList ++ ", ".toList.intercalate (args.map fun _ => placeholder) ++ [')']) := by
    have hmark : ∀ p ∈ args.map fun _ => placeholder, Clean names width p := by
      intro p hp
      obtain ⟨_, _, rfl⟩ := List.mem_map.mp hp
      exact .phrase (by decide)
    exact (Clean.intercalate hmark (by decide)).between (by decide) (by decide)
  cases h with
  | null field op hop =>
      rw [operandText_null hop]
      exact .nil
  | comparison field op v hop hin hv =>
      rw [Test.arguments_of_scalar field op hv, List.map_singleton, operandText_comparison hop hin]
      exact .phrase (by decide)
  | member | memberOfList => exact hlist _

theorem Clean.written {column : Text} (hcolumn : Clean names width column) {t : Test} (h : t.Fits) :
    Clean names width (t.written column fun _ => placeholder) := by
  have hspace : startsApart (' ' :: t.operator.spelling.toList) = true := rfl
  have hword := hcolumn.append (.phrase (isPhrase_spelling t.operator)) (apart_of_startsApart hspace)
  exact hword.append (.operands h) (apart_of_startsApart (startsApart_operandText _ _))

theorem Clean.joinTexts (k : Connective) {parts : List Text} (h : ∀ p ∈ parts, Clean names width p) :
    Clean names width (joinTexts k parts) := by
  have hparts : ∀ p ∈ parts.map fun p => '(' :: p ++ [')'], Clean names width p := by
    intro p hp
    obtain ⟨p, hmem, rfl⟩ := List.mem_map.mp hp
    exact (h p hmem).between (l := ['(']) (r := [')']) (by decide) (by decide)
  cases k with
  | all => exact .intercalate hparts (by decide)
  | any => exact .intercalate hparts (by decide)

/-- The text of a filter that passes its checks is clean, if what stands for its fields is. -/
theorem Clean.text {column : String → Text} {f : Filter} (h : f.checkAll checkTest = .ok ())
    (hcolumn : ∀ t ∈ f.tests, isIdentifier t.field = true → Clean names width (column t.field)) :
    Clean names width (f.text column) := by
  induction f using Filter.induction with
  | test t =>
      obtain ⟨hfield, hfits⟩ := checkTest_eq_ok_iff.mp h
      exact (hcolumn t (by simp) hfield).written hfits
  | group k parts ih =>
      obtain ⟨_, hparts⟩ := (Filter.checkAll_group_eq_ok_iff checkTest k parts).mp h
      rw [Filter.text, Filter.written_group]
      apply Clean.joinTexts
      intro p hp
      obtain ⟨f, hf, rfl⟩ := List.mem_map.mp hp
      apply ih f hf (hparts f hf)
      intro t ht
      apply hcolumn t
      rw [Filter.tests_group]
      exact List.mem_flatMap.mpr ⟨f, hf, ht⟩

end Sql

end FilterQuery

import FilterQuery.Proofs.Sql.Names
import FilterQuery.Proofs.Sql.Rendering

/-!
Placeholders and the values bound to them. The text of a statement and its arguments are built apart, one by joining and
the other by appending. They stay in step: filling the placeholders from left to right with the arguments gives the filter
with the arguments of each test at the place of the test. -/

namespace FilterQuery

namespace Sql

/-- A text with its placeholders filled from left to right. Those that no value is left for stay as they are. -/
def fill (write : Value → Text) : Text → List Value → Text
  | [], _ => []
  | c :: cs, vs =>
    if c = '?' then
      match vs with
      | [] => c :: fill write cs []
      | v :: vs => write v ++ fill write cs vs
    else c :: fill write cs vs

theorem fill_cons_of_ne (write : Value → Text) {c : Char} (hc : c ≠ '?') (cs : Text) (vs : List Value) :
    fill write (c :: cs) vs = c :: fill write cs vs := by
  rw [fill.eq_def]
  exact if_neg hc

/-- A text that needs exactly the given values, and what it is when they are filled in. Nothing that follows the text
changes this. -/
structure Fills (write : Value → Text) (t : Text) (vs : List Value) (filled : Text) : Prop where
  count : t.count '?' = vs.length
  fill_append : ∀ u rest, fill write (t ++ u) (vs ++ rest) = filled ++ fill write u rest

namespace Fills

variable {write : Value → Text}

theorem fill_eq {t filled : Text} {vs : List Value} (h : Fills write t vs filled) : fill write t vs = filled := by
  have happend := h.fill_append [] []
  rwa [List.append_nil, List.append_nil, fill, List.append_nil] at happend

/-- A text without placeholders needs no values. -/
theorem of_not_mem {t : Text} (h : '?' ∉ t) : Fills write t [] t where
  count := by rw [List.count_eq_zero.mpr h, List.length_nil]
  fill_append u rest := by
    induction t with
    | nil => rfl
    | cons c cs ih =>
        rw [List.mem_cons, not_or] at h
        obtain ⟨hc, hcs⟩ := h
        rw [List.cons_append, fill_cons_of_ne write (Ne.symm hc), ih hcs, List.cons_append]

theorem placeholder (v : Value) : Fills write placeholder [v] (write v) where
  count := rfl
  fill_append _ _ := rfl

theorem append {t t' filled filled' : Text} {vs vs' : List Value} (h : Fills write t vs filled)
    (h' : Fills write t' vs' filled') : Fills write (t ++ t') (vs ++ vs') (filled ++ filled') where
  count := by rw [List.count_append, List.length_append, h.count, h'.count]
  fill_append u rest := by
    rw [List.append_assoc, List.append_assoc, h.fill_append, h'.fill_append, List.append_assoc]

/-- A text needs the same values with something before and after it. -/
theorem between {l t r filled : Text} {vs : List Value} (h : Fills write t vs filled) (hl : '?' ∉ l) (hr : '?' ∉ r) :
    Fills write (l ++ t ++ r) vs (l ++ filled ++ r) := by
  have hall := ((of_not_mem hl).append h).append (of_not_mem hr)
  rwa [List.nil_append, List.append_nil] at hall

/-- Texts with something between them need the values of all of them. -/
theorem intercalate {ι : Type} {sep : Text} (hsep : '?' ∉ sep) {t filled : ι → Text} {vs : ι → List Value}
    {is : List ι} (h : ∀ i ∈ is, Fills write (t i) (vs i) (filled i)) :
    Fills write (sep.intercalate (is.map t)) (is.flatMap vs) (sep.intercalate (is.map filled)) := by
  induction is with
  | nil => exact of_not_mem List.not_mem_nil
  | cons i is ih =>
      have hi := h i List.mem_cons_self
      have his := ih fun j hj => h j (List.mem_cons_of_mem _ hj)
      cases is with
      | nil => simpa using hi
      | cons j is =>
          simp only [List.map_cons, List.intercalate_cons_cons, List.append_assoc] at his ⊢
          exact hi.append ((of_not_mem hsep).append his)

end Fills

end Sql

open Sql

variable {write : Value → Text}

theorem Operator.not_mem_spelling (op : Operator) : '?' ∉ op.spelling.toList := by
  cases op <;> decide

theorem Connective.not_mem_word (k : Connective) : '?' ∉ k.word.toList := by
  cases k <;> decide

/-- The operands of a test that fits are as many as its arguments. -/
theorem Test.Fits.fills_operandText {t : Test} (h : t.Fits) :
    Fills write (operandText t.operator (t.arguments.map fun _ => placeholder)) t.arguments
      (operandText t.operator (t.arguments.map write)) := by
  have hin (vs : List Value) : Fills write (operandText .isIn (vs.map fun _ => placeholder)) vs
      (operandText .isIn (vs.map write)) := by
    have hopen : Fills write " (".toList [] " (".toList := .of_not_mem (by decide)
    have hclose : Fills write [')'] [] [')'] := .of_not_mem (by decide)
    have hvs : Fills write (", ".toList.intercalate (vs.map fun _ => placeholder)) (vs.flatMap fun v => [v])
        (", ".toList.intercalate (vs.map write)) := .intercalate (by decide) fun v _ => .placeholder v
    simpa [operandText] using (hopen.append hvs).append hclose
  cases h with
  | null field op hop =>
      rw [operandText_null hop, operandText_null hop]
      exact .of_not_mem List.not_mem_nil
  | comparison field op v hop hne hv =>
      rw [arguments_of_scalar field op hv, List.map_singleton, List.map_singleton,
        operandText_comparison hop hne, operandText_comparison hop hne]
      have hspace : Fills write [' '] [] [' '] := .of_not_mem (by decide)
      exact hspace.append (.placeholder v)
  | member field v hv => exact hin _
  | memberOfList field items hne hitems => exact hin _

theorem Test.fills_written {t : Test} (h : t.Fits) {column : Text} (hcolumn : '?' ∉ column) :
    Fills write (t.written column fun _ => placeholder) t.arguments (t.written column write) := by
  have hspelling : '?' ∉ column ++ ' ' :: t.operator.spelling.toList := by
    simpa [hcolumn] using t.operator.not_mem_spelling
  exact (Fills.of_not_mem hspelling).append h.fills_operandText

theorem Filter.fills_written {column : String → Text} (hcolumn : ∀ name, isIdentifier name = true → '?' ∉ column name)
    {f : Filter} (h : f.checkAll checkTest = .ok ()) :
    Fills write (f.text column) f.arguments (f.written column write) := by
  induction f using Filter.induction with
  | test t =>
      obtain ⟨hfield, hfits⟩ := checkTest_eq_ok_iff.mp h
      rw [arguments_test]
      exact t.fills_written hfits (hcolumn t.field hfield)
  | group k parts ih =>
      obtain ⟨_, hparts⟩ := (checkAll_group_eq_ok_iff checkTest k parts).mp h
      have hsep : '?' ∉ ' ' :: k.word.toList ++ [' '] := by
        simpa using k.not_mem_word
      have hpart : ∀ f ∈ parts, Fills write ('(' :: f.text column ++ [')']) f.arguments
          ('(' :: f.written column write ++ [')']) := by
        intro f hf
        have hopen : Fills write ['('] [] ['('] := .of_not_mem (by decide)
        have hclose : Fills write [')'] [] [')'] := .of_not_mem (by decide)
        simpa using (hopen.append (ih f hf (hparts f hf))).append hclose
      rw [text, written_group, written_group, arguments_group, joinTexts, joinTexts, List.map_map, List.map_map]
      exact Fills.intercalate hsep hpart

theorem Sql.not_mem_quote {name : String} (h : isIdentifier name = true) : '?' ∉ quote name := by
  rw [quote_of_isIdentifier h]
  simpa using not_mem_of_isIdentifier h (by decide)

theorem Sql.not_mem_columnText {exprs : ColumnExprs} (hexprs : ∀ e ∈ exprs, '?' ∉ e.2.toList) {name : String}
    (h : isIdentifier name = true) : '?' ∉ columnText exprs name := by
  unfold columnText
  split
  · rename_i expr hexpr
    obtain ⟨before, after, heq, _⟩ := List.lookup_eq_some_iff.mp hexpr
    exact hexprs (name, expr) (by simp [heq])
  · exact not_mem_quote h

theorem Filter.isList_of_mem_arguments {f : Filter} (h : f.checkAll checkTest = .ok ()) {v : Value}
    (hv : v ∈ f.arguments) : v.isList = false := by
  induction f using Filter.induction with
  | test t =>
      obtain ⟨_, hfits⟩ := checkTest_eq_ok_iff.mp h
      rw [arguments_test] at hv
      exact hfits.isList_of_mem_arguments hv
  | group k parts ih =>
      obtain ⟨_, hparts⟩ := (checkAll_group_eq_ok_iff checkTest k parts).mp h
      rw [arguments_group, List.mem_flatMap] at hv
      obtain ⟨f, hf, hvf⟩ := hv
      exact ih f hf (hparts f hf) hvf

/-- Every placeholder of a statement is bound to a value of its own test: there are as many as arguments, the arguments
are those of the tests from left to right, none of them is a list, and filling them in gives the filter with the arguments
of each test at its own place, however values are written. The expressions that stand for columns must have no
placeholders of their own. -/
theorem Sql.compileWith_binds_in_order {exprs : ColumnExprs} (hexprs : ∀ e ∈ exprs, '?' ∉ e.2.toList) {f : Filter}
    {s : Statement} (h : compileWith exprs f = .ok s) :
    s.placeholders = s.args.length ∧ s.args = f.tests.flatMap Test.arguments ∧
      (∀ v ∈ s.args, v.isList = false) ∧
      ∀ write : Value → Text, fill write s.text s.args = f.written (columnText exprs) write := by
  obtain ⟨hcheck, rfl⟩ := compileWith_eq_ok_iff.mp h
  have hfills (write : Value → Text) : Fills write (f.text (columnText exprs)) f.arguments
      (f.written (columnText exprs) write) :=
    f.fills_written (fun _ hname => not_mem_columnText hexprs hname) hcheck
  refine ⟨?_, rfl, ?_, ?_⟩
  · exact (hfills fun _ => []).count
  · intro v hv
    exact Filter.isList_of_mem_arguments hcheck hv
  · intro write
    exact (hfills write).fill_eq

/-- Filled with its arguments as they are shown to a reader, the statement of a nested filter on a cast column. The
question mark inside a string takes no argument. -/
theorem Sql.fill_statement_of_cast_column :
    let exprs : ColumnExprs := [("str_id", "CAST(`id` AS CHAR(50))")]
    let f : Filter := .group .any [
      .group .all [.test ⟨"a", .eq, some (.int 1)⟩, .test ⟨"str_id", .gt, some (.str "5?")⟩],
      .test ⟨"c", .isNull, none⟩, .test ⟨"d", .isIn, some (.list [.int 3, .bool true])⟩]
    ∃ s, compileWith exprs f = .ok s ∧ s.placeholders = 4 ∧ s.args.length = 4 ∧ fill Value.write s.text s.args =
      "((`a` = 1) AND (CAST(`id` AS CHAR(50)) > 5?)) OR (`c` IS NULL) OR (`d` IN (3, true))".toList := by
  intro exprs f
  obtain ⟨hcount, _, _, hfill⟩ := compileWith_binds_in_order (f := f) (by decide : ∀ e ∈ exprs, '?' ∉ e.2.toList) rfl
  exact ⟨_, rfl, hcount, rfl, hfill Value.write⟩

end FilterQuery

import FilterQuery.Proofs.Sql.Rendering
import Mathlib.Data.List.Induction
import Mathlib.Tactic.SplitIfs

/-!
Expressions in place of columns. However often expressions are set, what stands for a field is the one that was set last for
exactly this field. A filter is checked without them, and in its text they stand where the columns would, so they change
neither whether it compiles nor its arguments. -/

namespace FilterQuery.Sql

namespace ColumnExprs

/-- The expressions after some have been set for fields, one after the other. -/
def ofSettings (settings : List (String × String)) : ColumnExprs :=
  settings.foldl (fun exprs p => exprs.set p.1 p.2) []

/-- The expression that was set last for a field. -/
def last? (settings : List (String × String)) (field : String) : Option String :=
  (settings.filter fun p => p.1 = field).getLast?.map Prod.snd

variable {exprs : ColumnExprs} {settings before between after : List (String × String)} {field field' expr : String}
  {a b : String × String}

theorem lookup_cons (exprs : ColumnExprs) (field expr field' : String) :
    List.lookup field' ((field, expr) :: exprs) = if field' = field then some expr else exprs.lookup field' := by
  rw [List.lookup_cons]
  by_cases h : field' = field
  · rw [if_pos h, beq_iff_eq.mpr h]
  · rw [if_neg h, beq_eq_false_iff_ne.mpr h]

theorem lookup_set (exprs : ColumnExprs) (field expr field' : String) :
    (exprs.set field expr).lookup field' = if field' = field then some expr else exprs.lookup field' := by
  induction exprs with
  | nil => exact lookup_cons [] field expr field'
  | cons p exprs ih =>
      obtain ⟨f, e⟩ := p
      rw [set, lookup_cons]
      by_cases hf : f = field
      · subst hf
        rw [if_pos rfl, lookup_cons]
        split_ifs <;> rfl
      · rw [if_neg hf, lookup_cons, ih]
        -- the field is not that of both entries
        split_ifs with hfirst hfield <;> first | rfl | exact absurd (hfirst.symm.trans hfield) hf

theorem ofSettings_concat (settings : List (String × String)) (p : String × String) :
    ofSettings (settings ++ [p]) = (ofSettings settings).set p.1 p.2 := by
  rw [ofSettings, List.foldl_append]
  rfl

theorem last?_concat (settings : List (String × String)) (p : String × String) (field : String) :
    last? (settings ++ [p]) field = if field = p.1 then some p.2 else last? settings field := by
  rw [last?, List.filter_append]
  split_ifs with h
  · simp [h]
  · have hne : ¬p.1 = field := fun heq => h heq.symm
    simp [last?, hne]

/-- What is found for a field is what was set last for it. -/
theorem lookup_ofSettings (settings : List (String × String)) (field : String) :
    (ofSettings settings).lookup field = last? settings field := by
  induction settings using List.reverseRecOn with
  | nil => rfl
  | append_singleton settings p ih => rw [ofSettings_concat, lookup_set, last?_concat, ih]

/-- The order of settings for two fields does not matter. -/
theorem last?_swap (h : a.1 ≠ b.1) (field : String) :
    last? (before ++ b :: a :: after) field = last? (before ++ a :: b :: after) field := by
  have hfilter : (b :: a :: after).filter (fun p => p.1 = field) = (a :: b :: after).filter fun p => p.1 = field := by
    by_cases ha : a.1 = field
    · have hb : ¬b.1 = field := fun hb => h (ha.trans hb.symm)
      simp [ha, hb]
    · by_cases hb : b.1 = field <;> simp [ha, hb]
  rw [last?, last?, List.filter_append, List.filter_append, hfilter]

/-- A setting before another for the same field does not matter. -/
theorem last?_of_overwritten (h : a.1 = b.1) (field : String) :
    last? (before ++ between ++ b :: after) field = last? (before ++ a :: between ++ b :: after) field := by
  by_cases ha : a.1 = field
  · have hb : b.1 = field := h.symm.trans ha
    have hne : (b :: after).filter (fun p => p.1 = field) ≠ [] := by simp [hb]
    rw [last?, last?, List.filter_append, List.filter_append _ (b :: after), List.getLast?_append_of_ne_nil _ hne,
      List.getLast?_append_of_ne_nil _ hne]
  · simp [last?, ha]

end ColumnExprs

open ColumnExprs

/-- What stands for a field: the expression that was set last for it, or else its quoted name. -/
def columnOf (settings : List (String × String)) (field : String) : Text :=
  match last? settings field with
  | some expr => expr.toList
  | none => quote field

theorem columnText_ofSettings (settings : List (String × String)) : columnText (ofSettings settings) = columnOf settings := by
  funext field
  rw [columnText, lookup_ofSettings]
  rfl

/-- Settings that agree on the last expression for every field make the same statements. -/
theorem compileWith_ofSettings_congr {settings settings' : List (String × String)}
    (h : ∀ field, last? settings' field = last? settings field) (f : Filter) :
    compileWith (ofSettings settings') f = compileWith (ofSettings settings) f := by
  have hcolumn : columnOf settings' = columnOf settings := by
    funext field
    rw [columnOf, columnOf, h field]
  rw [compileWith_eq, compileWith_eq, columnText_ofSettings, columnText_ofSettings, hcolumn]

/-- Expressions that are set for fields change the texts of columns and nothing else. A filter fails to compile as it does without
them; if it compiles, its arguments are the same and its text is that of the same filter with the last expression of each
field in place of the quoted name. So settings for two fields may be swapped, and one that comes before another for the
same field may be left out. -/
theorem compileWith_changes_columns_only (settings : List (String × String)) (f : Filter) :
    (∀ e, compileWith (ofSettings settings) f = .error e ↔ compile f = .error e) ∧
      (∀ s, compileWith (ofSettings settings) f = .ok s ↔
        ∃ plain, compile f = .ok plain ∧ plain.text = f.text quote ∧ s.text = f.text (columnOf settings) ∧ s.args = plain.args) ∧
      (∀ before a b after, settings = before ++ a :: b :: after → a.1 ≠ b.1 →
        compileWith (ofSettings (before ++ b :: a :: after)) f = compileWith (ofSettings settings) f) ∧
      ∀ before a between b after, settings = before ++ a :: between ++ b :: after → a.1 = b.1 →
        compileWith (ofSettings (before ++ between ++ b :: after)) f = compileWith (ofSettings settings) f := by
  refine ⟨fun e => ?_, fun s => ?_, ?_, ?_⟩
  · rw [compile, compileWith_eq, compileWith_eq, map_eq_error_iff, map_eq_error_iff]
  · have hquote : columnText [] = quote := rfl
    simp only [compile, compileWith_eq_ok_iff, columnText_ofSettings, hquote]
    constructor
    · rintro ⟨hchecks, rfl⟩
      exact ⟨_, ⟨hchecks, rfl⟩, rfl, rfl, rfl⟩
    · rintro ⟨_, ⟨hchecks, rfl⟩, _, htext, hargs⟩
      obtain ⟨text, args⟩ := s
      exact ⟨hchecks, congrArg₂ Statement.mk htext hargs⟩
  · rintro before a b after rfl hne
    exact compileWith_ofSettings_congr (last?_swap hne) f
  · rintro before a between b after rfl heq
    exact compileWith_ofSettings_congr (last?_of_overwritten heq) f

/-- Two fields, one of which is set twice, and settings for a field that is no identifier. -/
theorem compileWith_of_field_set_twice :
    let settings : List (String × String) := [("a", "x"), ("b c", "y"), ("b", "LOWER(`b`)"), ("a", "`t`.`a`")]
    let f : Filter := .group .any [.test ⟨"a", .eq, some (.int 1)⟩, .test ⟨"b", .isNull, none⟩, .test ⟨"A", .isNull, none⟩]
    let s : Statement := ⟨"(`t`.`a` = ?) OR (LOWER(`b`) IS NULL) OR (`A` IS NULL)".toList, [.int 1]⟩
    compileWith (ofSettings settings) f = .ok s ∧
      compileWith (ofSettings [("b c", "y"), ("a", "x"), ("b", "LOWER(`b`)"), ("a", "`t`.`a`")]) f = .ok s ∧
      compileWith (ofSettings [("b c", "y"), ("b", "LOWER(`b`)"), ("a", "`t`.`a`")]) f = .ok s ∧
      compileWith (ofSettings settings) (.test ⟨"b c", .isNull, none⟩) = .error (.invalidIdentifier "b c") := by
  intro settings f s
  obtain ⟨_, hok, hswap, hdrop⟩ := compileWith_changes_columns_only settings f
  have hs : compileWith (ofSettings settings) f = .ok s := by
    rw [hok]
    exact ⟨⟨f.text quote, [.int 1]⟩, rfl, rfl, rfl, rfl⟩
  refine ⟨hs, ?_, ?_, ?_⟩
  · exact (hswap [] ("a", "x") ("b c", "y") _ rfl (by decide)).trans hs
  · exact (hdrop [] ("a", "x") [("b c", "y"), ("b", "LOWER(`b`)")] ("a", "`t`.`a`") [] rfl rfl).trans hs
  · rw [(compileWith_changes_columns_only settings _).1]
    rfl

end FilterQuery.Sql

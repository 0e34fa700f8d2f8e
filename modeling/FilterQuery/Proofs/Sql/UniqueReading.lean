import FilterQuery.Proofs.Record.Holds
import FilterQuery.Proofs.Sql.Names
import FilterQuery.Proofs.Sql.Rendering

/-!
Statements can be read in one way only. The text of a filter is read from the left: a parenthesis opens a group and
anything else a test, the word of an operator ends where its operands begin, and a part ends where its own parenthesis
closes. So the text and the arguments of a statement give back the filter up to its normal form, whatever stands behind
the text, as long as it is nothing or a closing parenthesis. -/

namespace FilterQuery

namespace Sql

/-- What may follow the text of a filter: nothing, or a closing parenthesis. -/
def IsEnd (u : Text) : Prop :=
  ∀ c ∈ u.head?, c = ')'

theorem isEnd_nil : IsEnd [] := by
  intro c hc
  cases hc

theorem isEnd_close (u : Text) : IsEnd (')' :: u) := by
  intro c hc
  exact (Option.some.inj hc).symm

theorem IsEnd.head_ne {u : Text} (h : IsEnd u) {c : Char} (hc : c ≠ ')') : u.head? ≠ some c := by
  intro hu
  exact hc (h c hu)

/-- Texts of columns that a reader can tell apart: a blank ends each of them, and none begins with a parenthesis. -/
structure Legible (column : String → Text) : Prop where
  append_inj : ∀ {a b : String}, isIdentifier a = true → isIdentifier b = true → ∀ {u v : Text},
    column a ++ ' ' :: u = column b ++ ' ' :: v → a = b ∧ u = v
  ne_open : ∀ {a : String}, isIdentifier a = true → ∀ {u v : Text}, column a ++ ' ' :: u ≠ '(' :: v

theorem legible_quote : Legible quote where
  append_inj _ _ _ _ h := by
    obtain ⟨hab, huv⟩ := quote_append_inj (by simp) (by simp) h
    exact ⟨hab, List.tail_eq_of_cons_eq huv⟩
  ne_open _ _ _ h := by
    rw [quote] at h
    simp at h

/-! ### Reading a test -/

/-- The operands of a test never go on as the word of its operator could. -/
theorem operandText_head_ne (op : Operator) (operands : List Text) {u : Text} (hu : IsEnd u) :
    (operandText op operands ++ u).head? ≠ some '=' := by
  cases op with
  | isNull | isNotNull => exact hu.head_ne (by decide)
  | _ => simp [operandText]

/-- The word of an operator ends where something other than `=` begins. -/
theorem spelling_append_inj {op op' : Operator} {u v : Text} (hu : u.head? ≠ some '=') (hv : v.head? ≠ some '=')
    (h : op.spelling.toList ++ u = op'.spelling.toList ++ v) : op = op' ∧ u = v := by
  cases op <;> cases op' <;> simp_all [Operator.spelling]
  all_goals exact hv (by rw [← h, List.head?_cons])

/-- The operands of IN end at the parenthesis. -/
theorem intercalate_placeholder_inj {vs ws : List Value} {u v : Text}
    (h : ", ".toList.intercalate (vs.map fun _ => placeholder) ++ ')' :: u =
      ", ".toList.intercalate (ws.map fun _ => placeholder) ++ ')' :: v) : vs.length = ws.length ∧ u = v := by
  induction vs generalizing ws with
  | nil =>
      cases ws with
      | nil => simpa using h
      | cons w ws => cases ws <;> simp [placeholder] at h
  | cons x vs ih =>
      cases ws with
      | nil => cases vs <;> simp [placeholder] at h
      | cons w ws =>
          cases vs with
          | nil => cases ws <;> simp_all [placeholder]
          | cons y vs =>
              cases ws with
              | nil => simp [placeholder] at h
              | cons z ws =>
                  simp only [List.map_cons, List.intercalate_cons_cons, List.append_assoc, List.append_cancel_left_eq] at h
                  obtain ⟨hlength, huv⟩ := @ih (z :: ws) h
                  exact ⟨by simpa using hlength, huv⟩

end Sql

open Sql

theorem Test.Fits.operandText_append_inj {t t' : Test} (h : t.Fits) (h' : t'.Fits) (hop : t.operator = t'.operator)
    {u v : Text} (heq : operandText t.operator (t.arguments.map fun _ => placeholder) ++ u =
      operandText t'.operator (t'.arguments.map fun _ => placeholder) ++ v) :
    t.arguments.length = t'.arguments.length ∧ u = v := by
  rw [← hop] at heq
  by_cases hin : t.operator = .isIn
  · rw [hin] at heq
    simp only [operandText, List.append_assoc, List.append_cancel_left_eq] at heq
    exact intercalate_placeholder_inj heq
  · cases hneeds : t.operator.needsValue with
    | false =>
        have hnone := h.value_of_null hneeds
        have hnone' := h'.value_of_null (hop ▸ hneeds)
        rw [operandText_null hneeds, operandText_null hneeds] at heq
        exact ⟨by simp [arguments, hnone, hnone'], heq⟩
    | true =>
        obtain ⟨x, _, hx⟩ := h.value_of_comparison hneeds hin
        obtain ⟨y, _, hy⟩ := h'.value_of_comparison (hop ▸ hneeds) (hop ▸ hin)
        rw [hx, hy, List.map_singleton, List.map_singleton, operandText_comparison hneeds hin] at heq
        exact ⟨by rw [hx, hy]; rfl, List.append_cancel_left heq⟩

theorem Test.Fits.normal_of_isIn {t : Test} (h : t.Fits) (hop : t.operator = .isIn) :
    t.normal = ⟨t.field, .isIn, some (.list t.arguments)⟩ := by
  cases h with
  | null field op hnull =>
      change op = .isIn at hop
      subst hop
      cases hnull
  | comparison _ _ _ _ hin => exact absurd hop hin
  | member field v hv =>
      cases v with
      | list items => cases hv
      | _ => rfl
  | memberOfList => rfl

/-- A test in normal form is known by its field, its operator and its arguments. -/
theorem Test.Fits.normal_eq {t t' : Test} (h : t.Fits) (h' : t'.Fits) (hfield : t.field = t'.field)
    (hop : t.operator = t'.operator) (hargs : t.arguments = t'.arguments) : t.normal = t'.normal := by
  by_cases hin : t.operator = .isIn
  · rw [h.normal_of_isIn hin, h'.normal_of_isIn (hop ▸ hin), hfield, hargs]
  · rw [Test.normal_of_ne hin, Test.normal_of_ne (hop ▸ hin)]
    have hvalue : t.value = t'.value := by
      cases hneeds : t.operator.needsValue with
      | false => rw [h.value_of_null hneeds, h'.value_of_null (hop ▸ hneeds)]
      | true =>
          obtain ⟨x, hx, hxs⟩ := h.value_of_comparison hneeds hin
          obtain ⟨y, hy, hys⟩ := h'.value_of_comparison (hop ▸ hneeds) (hop ▸ hin)
          rw [hxs, hys, List.singleton_inj] at hargs
          rw [hx, hy, hargs]
    obtain ⟨field, op, value⟩ := t
    obtain ⟨field', op', value'⟩ := t'
    rw [Test.mk.injEq]
    exact ⟨hfield, hop, hvalue⟩

variable {column : String → Text}

/-- A test can be read off the text and the arguments that begin with it. -/
theorem Test.written_append_inj (hcolumn : Legible column) {t t' : Test} (h : checkTest t = .ok ())
    (h' : checkTest t' = .ok ()) {u v : Text} (hu : IsEnd u) (hv : IsEnd v) {as bs : List Value}
    (htext : t.written (column t.field) (fun _ => placeholder) ++ u =
      t'.written (column t'.field) (fun _ => placeholder) ++ v)
    (hargs : t.arguments ++ as = t'.arguments ++ bs) : t.normal = t'.normal ∧ u = v ∧ as = bs := by
  obtain ⟨hname, hfits⟩ := checkTest_eq_ok_iff.mp h
  obtain ⟨hname', hfits'⟩ := checkTest_eq_ok_iff.mp h'
  simp only [written, List.append_assoc, List.cons_append] at htext
  obtain ⟨hfield, hrest⟩ := hcolumn.append_inj hname hname' htext
  obtain ⟨hop, hoperands⟩ := spelling_append_inj (operandText_head_ne _ _ hu) (operandText_head_ne _ _ hv) hrest
  obtain ⟨hlength, huv⟩ := hfits.operandText_append_inj hfits' hop hoperands
  obtain ⟨harguments, hasbs⟩ := List.append_inj hargs hlength
  exact ⟨hfits.normal_eq hfits' hfield hop harguments, huv, hasbs⟩

/-! ### Reading a filter -/

namespace Filter

/-- Whatever filter a text begins with, if it begins with the text of this one then they are the same up to normal form,
and so is what follows them; the same goes for the arguments. -/
def ReadsBack (column : String → Text) (f : Filter) : Prop :=
  ∀ g : Filter, g.checkAll checkTest = .ok () → ∀ u v : Text, IsEnd u → IsEnd v → ∀ as bs : List Value,
    f.text column ++ u = g.text column ++ v → f.arguments ++ as = g.arguments ++ bs →
      f.normal = g.normal ∧ u = v ∧ as = bs

/-- A part of a group in its parentheses. -/
def partText (column : String → Text) (f : Filter) : Text :=
  '(' :: f.text column ++ [')']

/-- The parts of a group behind the first, each after the word of the group. -/
def laterText (column : String → Text) (k : Connective) (fs : List Filter) : Text :=
  fs.flatMap fun f => ' ' :: k.word.toList ++ ' ' :: f.partText column

theorem text_group_cons (column : String → Text) (k : Connective) (f : Filter) (fs : List Filter) :
    (group k (f :: fs)).text column = f.partText column ++ laterText column k fs := by
  rw [text, written_group, joinTexts]
  induction fs generalizing f with
  | nil => simp [laterText, partText, text]
  | cons g fs ih =>
      simp only [List.map_cons, List.intercalate_cons_cons] at ih ⊢
      rw [ih g]
      simp [laterText, partText, text]

theorem word_append_inj {k l : Connective} {u v : Text} (h : k.word.toList ++ ' ' :: u = l.word.toList ++ ' ' :: v) :
    k = l ∧ u = v := by
  cases k <;> cases l <;> simp_all [Connective.word]

/-- A part is read back with what stands behind it, since its own parenthesis ends it. -/
theorem ReadsBack.part {f : Filter} (hf : f.ReadsBack column) {g : Filter} (hg : g.checkAll checkTest = .ok ())
    {u v : Text} {as bs : List Value} (htext : f.partText column ++ u = g.partText column ++ v)
    (hargs : f.arguments ++ as = g.arguments ++ bs) : f.normal = g.normal ∧ u = v ∧ as = bs := by
  simp only [partText, List.append_assoc, List.cons_append, List.cons.injEq, true_and, List.nil_append] at htext
  obtain ⟨hnormal, hrest, hasbs⟩ := hf g hg _ _ (isEnd_close u) (isEnd_close v) as bs htext hargs
  exact ⟨hnormal, List.tail_eq_of_cons_eq hrest, hasbs⟩

theorem readsBack_later {fs gs : List Filter} (hfs : ∀ f ∈ fs, f.ReadsBack column)
    (hgs : ∀ g ∈ gs, g.checkAll checkTest = .ok ()) {k l : Connective} {u v : Text} (hu : IsEnd u) (hv : IsEnd v)
    {as bs : List Value} (htext : laterText column k fs ++ u = laterText column l gs ++ v)
    (hargs : fs.flatMap arguments ++ as = gs.flatMap arguments ++ bs) :
    fs.map normal = gs.map normal ∧ (fs ≠ [] → k = l) ∧ u = v ∧ as = bs := by
  induction fs generalizing gs with
  | nil =>
      cases gs with
      | nil => exact ⟨rfl, fun h => absurd rfl h, htext, hargs⟩
      | cons g gs =>
          -- more parts begin with a blank, which may not follow a filter
          have hhead : u.head? = some ' ' := by
            have := congrArg List.head? htext
            simpa [laterText] using this
          exact absurd hhead (hu.head_ne (by decide))
  | cons f fs ih =>
      cases gs with
      | nil =>
          have hhead : v.head? = some ' ' := by
            have := congrArg List.head? htext
            simpa [laterText] using this.symm
          exact absurd hhead (hv.head_ne (by decide))
      | cons g gs =>
          simp only [laterText, List.flatMap_cons, List.append_assoc, List.cons_append, List.cons.injEq,
            true_and] at htext hargs
          obtain ⟨hkl, htext⟩ := word_append_inj htext
          obtain ⟨hg, hgs⟩ := List.forall_mem_cons.mp hgs
          obtain ⟨hf, hfs⟩ := List.forall_mem_cons.mp hfs
          obtain ⟨hnormal, hlater, hrest⟩ := hf.part hg htext hargs
          obtain ⟨hnormals, _, huv, hasbs⟩ := ih hfs hgs hlater hrest
          exact ⟨by rw [List.map_cons, List.map_cons, hnormal, hnormals], fun _ => hkl, huv, hasbs⟩

theorem groupNormal_congr {k l : Connective} {f g : Filter} {fs gs : List Filter} (hfirst : f.normal = g.normal)
    (hlater : fs.map normal = gs.map normal) (hkl : fs ≠ [] → k = l) :
    (group k (f :: fs)).normal = (group l (g :: gs)).normal := by
  rw [normal_group, normal_group, List.map_cons, List.map_cons, hfirst, hlater]
  cases gs with
  | nil => rfl
  | cons g' gs =>
      have hne : fs ≠ [] := by
        rintro rfl
        cases hlater
      rw [hkl hne]

/-- Every filter that passes its checks is read back. -/
theorem readsBack (hcolumn : Legible column) {f : Filter} (h : f.checkAll checkTest = .ok ()) : f.ReadsBack column := by
  induction f using Filter.induction with
  | test t =>
      intro g hg u v hu hv as bs htext hargs
      cases g with
      | test t' =>
          rw [arguments_test, arguments_test] at hargs
          obtain ⟨hnormal, hrest⟩ := Test.written_append_inj hcolumn h hg hu hv htext hargs
          exact ⟨by rw [normal_test, normal_test, hnormal], hrest⟩
      | group l gs =>
          obtain ⟨hname, _⟩ := checkTest_eq_ok_iff.mp h
          obtain ⟨hne, _⟩ := (checkAll_group_eq_ok_iff checkTest l gs).mp hg
          obtain ⟨g, gs, rfl⟩ := List.exists_cons_of_ne_nil hne
          -- a group begins with a parenthesis, a test with its column
          rw [text_group_cons] at htext
          simp only [text, written_test, Test.written, partText, List.append_assoc, List.cons_append] at htext
          exact absurd htext (hcolumn.ne_open hname)
  | group k fs ih =>
      intro g hg u v hu hv as bs htext hargs
      obtain ⟨hne, hfs⟩ := (checkAll_group_eq_ok_iff checkTest k fs).mp h
      obtain ⟨f, fs, rfl⟩ := List.exists_cons_of_ne_nil hne
      rw [text_group_cons] at htext
      cases g with
      | test t' =>
          obtain ⟨hname, _⟩ := checkTest_eq_ok_iff.mp hg
          simp only [text, written_test, Test.written, partText, List.append_assoc, List.cons_append] at htext
          exact absurd htext.symm (hcolumn.ne_open hname)
      | group l gs =>
          obtain ⟨hne, hgs⟩ := (checkAll_group_eq_ok_iff checkTest l gs).mp hg
          obtain ⟨g, gs, rfl⟩ := List.exists_cons_of_ne_nil hne
          rw [text_group_cons, List.append_assoc, List.append_assoc] at htext
          rw [arguments_group, arguments_group, List.flatMap_cons, List.flatMap_cons, List.append_assoc,
            List.append_assoc] at hargs
          have hreads : ∀ f' ∈ f :: fs, f'.ReadsBack column := fun f' hf' => ih f' hf' (hfs f' hf')
          obtain ⟨hf, hfs⟩ := List.forall_mem_cons.mp hreads
          obtain ⟨hg, hgs⟩ := List.forall_mem_cons.mp hgs
          obtain ⟨hnormal, hlater, hrest⟩ := hf.part hg htext hargs
          obtain ⟨hnormals, hkl, huv, hasbs⟩ := readsBack_later hfs hgs hu hv hlater hrest
          exact ⟨groupNormal_congr hnormal hnormals hkl, huv, hasbs⟩

end Filter

/-- Two filters with the same statement have the same normal form, and so hold of the same records: the text and the
arguments of a statement leave no choice between filters that mean different things. -/
theorem Sql.normal_eq_of_compile_eq {f g : Filter} {s t : Statement} (hf : compile f = .ok s) (hg : compile g = .ok t)
    (hsql : s.sql = t.sql) (hargs : s.args = t.args) :
    f.normal = g.normal ∧ ∀ r : Record, f.matches? r = g.matches? r := by
  obtain ⟨hfcheck, rfl⟩ := compileWith_eq_ok_iff.mp hf
  obtain ⟨hgcheck, rfl⟩ := compileWith_eq_ok_iff.mp hg
  have htext : f.text quote = g.text quote := String.ofList_injective hsql
  obtain ⟨hnormal, _⟩ := f.readsBack legible_quote hfcheck g hgcheck [] [] isEnd_nil isEnd_nil [] []
    (by rw [htext]) (by rw [show f.arguments = g.arguments from hargs])
  refine ⟨hnormal, ?_⟩
  intro r
  rw [Filter.matches?_of_checkAll hfcheck, Filter.matches?_of_checkAll hgcheck, ← f.holds_normal, hnormal,
    g.holds_normal]

/-- A group of any and a group of all around one membership test, one written with a value and one with a list, share a
statement. -/
theorem Sql.normal_eq_of_groups_of_one :
    let f : Filter := .group .any [.group .any [.test ⟨"a", .isIn, some (.int 1)⟩], .test ⟨"b", .ge, some (.str "(")⟩]
    let g : Filter :=
      .group .any [.group .all [.test ⟨"a", .isIn, some (.list [.int 1])⟩], .test ⟨"b", .ge, some (.str "(")⟩]
    ∃ s t, compile f = .ok s ∧ compile g = .ok t ∧ s.sql = t.sql ∧ s.args = t.args ∧
      f.normal = g.normal ∧ ∀ r : Record, f.matches? r = g.matches? r :=
  ⟨_, _, rfl, rfl, rfl, rfl, normal_eq_of_compile_eq rfl rfl rfl rfl⟩

end FilterQuery

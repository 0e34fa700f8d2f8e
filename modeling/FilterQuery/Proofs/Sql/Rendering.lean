import FilterQuery.Proofs.Filter.Fits

/-!
The text of a statement as a rendering of its filter. A filter can be written with its own values in it, each at the place
of its test; the text of the statement is what is written when every value is a question mark. A filter compiles when its
checks pass, and then the statement is this text with the arguments of the tests from left to right. -/

namespace FilterQuery

namespace Sql

/-- What stands behind the word of an operator, for given texts of the operands. -/
def operandText (op : Operator) (operands : List Text) : Text :=
  match op with
  | .isNull | .isNotNull => []
  | .isIn => " (".toList ++ ", ".toList.intercalate operands ++ [')']
  | _ => ' ' :: operands.flatten

theorem operandText_null {op : Operator} (hop : op.needsValue = false) (operands : List Text) :
    operandText op operands = [] := by
  cases op <;> simp_all [operandText, Operator.needsValue]

theorem operandText_comparison {op : Operator} (hop : op.needsValue = true) (hin : op ≠ .isIn) (operand : Text) :
    operandText op [operand] = ' ' :: operand := by
  cases op <;> simp_all [operandText, Operator.needsValue]

/-- The texts of the parts of a group, each in parentheses, with the word of the group between two of them. -/
def joinTexts (k : Connective) (parts : List Text) : Text :=
  (' ' :: k.word.toList ++ [' ']).intercalate (parts.map fun p => '(' :: p ++ [')'])

end Sql

/-- A test with its arguments written in it, behind the given text of the column. -/
def Test.written (column : Sql.Text) (write : Value → Sql.Text) (t : Test) : Sql.Text :=
  column ++ ' ' :: t.operator.spelling.toList ++ Sql.operandText t.operator (t.arguments.map write)

namespace Filter

/-- A filter with the arguments of each test written at the place of the test. -/
def written (column : String → Sql.Text) (write : Value → Sql.Text) (f : Filter) : Sql.Text :=
  f.fold (fun t => t.written (column t.field) write) Sql.joinTexts

/-- A filter with a placeholder for every argument. -/
def text (column : String → Sql.Text) (f : Filter) : Sql.Text :=
  f.written column fun _ => Sql.placeholder

/-- The arguments of the tests, from left to right. -/
def arguments (f : Filter) : List Value :=
  f.tests.flatMap Test.arguments

@[simp]
theorem written_test (column : String → Sql.Text) (write : Value → Sql.Text) (t : Test) :
    (test t).written column write = t.written (column t.field) write := rfl

@[simp]
theorem written_group (column : String → Sql.Text) (write : Value → Sql.Text) (k : Connective) (parts : List Filter) :
    (group k parts).written column write = Sql.joinTexts k (parts.map (written column write)) :=
  fold_group _ _ k parts

@[simp]
theorem arguments_test (t : Test) : (test t).arguments = t.arguments := by
  simp [arguments]

@[simp]
theorem arguments_group (k : Connective) (parts : List Filter) :
    (group k parts).arguments = parts.flatMap arguments := by
  simp only [arguments, tests_group, List.flatMap_assoc]
  rfl

end Filter

namespace Sql

/-- The text of a test that fits is the test with placeholders for its arguments. -/
theorem testText_eq_written {t : Test} (h : t.Fits) (column : Text) :
    testText t column = t.written column fun _ => placeholder := by
  cases h with
  | null field op hop =>
      rw [Test.written, operandText_null hop, List.append_nil]
      cases op <;> simp_all [testText, Operator.needsValue]
  | comparison field op v hop hin hv =>
      rw [Test.written, Test.arguments_of_scalar field op hv, List.map_singleton, operandText_comparison hop hin]
      cases op <;> simp_all [testText, Operator.needsValue]
  | member field v hv | memberOfList field items hne hitems =>
      simp [testText, Test.written, operandText, Operator.spelling]

theorem fold_testStatement (exprs : ColumnExprs) {f : Filter} (h : f.checkAll checkTest = .ok ()) :
    f.fold (fun t => ⟨testText t (columnText exprs t.field), t.arguments⟩) joinStatements =
      ⟨f.text (columnText exprs), f.arguments⟩ := by
  induction f using Filter.induction with
  | test t =>
      obtain ⟨_, hfits⟩ := checkTest_eq_ok_iff.mp h
      simp [Filter.text, testText_eq_written hfits]
  | group k parts ih =>
      obtain ⟨_, hparts⟩ := (Filter.checkAll_group_eq_ok_iff checkTest k parts).mp h
      rw [Filter.fold_group, List.map_congr_left fun f hf => ih f hf (hparts f hf)]
      simp [joinStatements, joinTexts, Filter.text, List.flatMap_map, Function.comp_def]

/-- A filter compiles when its checks pass. Its statement has the text of the filter and the arguments of its tests. -/
theorem compileWith_eq (exprs : ColumnExprs) (f : Filter) :
    compileWith exprs f =
      (f.checkAll checkTest).map fun _ => ⟨f.text (columnText exprs), f.arguments⟩ := by
  have hbuild : compileWith exprs f = (f.checkAll checkTest).map fun _ =>
      f.fold (fun t => ⟨testText t (columnText exprs t.field), t.arguments⟩) joinStatements :=
    Filter.build_checked checkTest _ joinStatements f
  rw [hbuild]
  cases h : f.checkAll checkTest with
  | error e => rfl
  | ok _ => rw [fold_testStatement exprs h]

theorem compileWith_eq_ok_iff {exprs : ColumnExprs} {f : Filter} {s : Statement} :
    compileWith exprs f = .ok s ↔
      f.checkAll checkTest = .ok () ∧ s = ⟨f.text (columnText exprs), f.arguments⟩ := by
  rw [compileWith_eq, map_check_eq_ok_iff, eq_comm (a := s)]

theorem exists_compileWith_iff (exprs : ColumnExprs) (f : Filter) :
    (∃ s, compileWith exprs f = .ok s) ↔ f.checkAll checkTest = .ok () := by
  simp [compileWith_eq_ok_iff]

end Sql

end FilterQuery

import FilterQuery.Filter.Build
import FilterQuery.Sql.Text
import FilterQuery.Value.Json

/-!
Statements made from filters. A statement is a text with question marks and the values bound to them, in order. A test becomes one
comparison, and the parts of a group stand in parentheses, so that the text can be read in one way only. -/

namespace FilterQuery.Sql

/-- A text and the values that its placeholders stand for, from left to right. -/
structure Statement where
  text : Text
  args : List Value

namespace Statement

def sql (s : Statement) : String :=
  String.ofList s.text

def placeholders (s : Statement) : Nat :=
  s.text.count '?'

def toJson (s : Statement) : Json.Tree :=
  .object [("sql", .string s.sql), ("args", .array (s.args.map Value.toJson))]

end Statement

/-- Expressions that stand for columns by name, where a field is not a column of the table. -/
abbrev ColumnExprs := List (String × String)

/-- Lets an expression stand for a field, in place of the one that stood for it. The expression goes into statements as
it is. -/
def ColumnExprs.set (exprs : ColumnExprs) (field expr : String) : ColumnExprs :=
  match exprs with
  | [] => [(field, expr)]
  | (f, e) :: rest => if f = field then (f, expr) :: rest else (f, e) :: ColumnExprs.set rest field expr

/-- What stands for a field: its expression, or the field itself as a quoted name. -/
def columnText (exprs : ColumnExprs) (field : String) : Text :=
  match exprs.lookup field with
  | some expr => expr.toList
  | none => quote field

/-- The comparison that a test stands for, with the given text in place of the column. -/
def testText (t : Test) (column : Text) : Text :=
  match t.operator with
  | .isNull | .isNotNull => column ++ ' ' :: t.operator.spelling.toList
  | .isIn => column ++ " IN (".toList ++ ", ".toList.intercalate (t.arguments.map fun _ => placeholder) ++ [')']
  | op => column ++ ' ' :: op.spelling.toList ++ ' ' :: placeholder

/-- What a test must be: a field on the allow-list, and a value that fits the operator. -/
def checkTest (t : Test) : Except Failure Unit := do
  checkIdentifier t.field
  t.check

def testStatement (exprs : ColumnExprs) (t : Test) : Except Failure Statement :=
  (checkTest t).map fun _ => ⟨testText t (columnText exprs t.field), t.arguments⟩

def joinStatements (k : Connective) (parts : List Statement) : Statement where
  text := (' ' :: k.word.toList ++ [' ']).intercalate (parts.map fun p => '(' :: p.text ++ [')'])
  args := parts.flatMap Statement.args

/-- The condition of a filter, with expressions for some of its fields. -/
def compileWith (exprs : ColumnExprs) (f : Filter) : Except Failure Statement :=
  f.build (testStatement exprs) joinStatements

/-- The condition of a filter, every field of which is a column. -/
def compile (f : Filter) : Except Failure Statement :=
  compileWith [] f

end FilterQuery.Sql

import FilterQuery.Failure

/-!
The parts of a statement's text. Names stand in backticks, a backtick inside a name is doubled, and
values are never written: a question mark holds the place of each. Names that come from a caller are
held to an allow-list of characters before they are quoted. -/

namespace FilterQuery.Sql

abbrev Text := List Char

/-- The characters of the allow-list: ASCII letters and digits, `$` and `_`. -/
def isNameChar (c : Char) : Bool :=
  c.isAlphanum || c = '$' || c = '_'

def maxNameLength : Nat := 128

def isIdentifier (name : String) : Bool :=
  let cs := name.toList
  !cs.isEmpty && cs.length ≤ maxNameLength && cs.all isNameChar

/-- A name must be on the allow-list. -/
def checkIdentifier (name : String) : Except Failure Unit :=
  if isIdentifier name then .ok () else .error (.invalidIdentifier name)

def dialect : String := "mysql"

def placeholder : Text := ['?']

def quoteChar (c : Char) : List Char :=
  if c = '\x60' then ['\x60', '\x60'] else [c]

def quote (name : String) : Text :=
  '\x60' :: name.toList.flatMap quoteChar ++ ['\x60']

/-- An expression cast to a string of fixed width. -/
def charCast (expr : Text) (width : Nat) : Text :=
  "CAST(".toList ++ expr ++ " AS CHAR(".toList ++ Nat.toDigits 10 width ++ "))".toList

/-- The clause that bounds the number of rows by a bound value. -/
def limitText : Text :=
  "LIMIT ".toList ++ placeholder

/-- The clause that orders the rows by one column. -/
def orderText (column : Text) (descending : Bool) : Text :=
  "ORDER BY ".toList ++ column ++ (if descending then " DESC".toList else " ASC".toList)

/-- Reads the rest of a name up to the backtick that closes it, and what follows. -/
def readQuotedRest : List Char → Option (List Char × List Char)
  | [] => none
  | ['\x60'] => some ([], [])
  | '\x60' :: '\x60' :: rest => (readQuotedRest rest).map fun r => ('\x60' :: r.1, r.2)
  | c :: rest =>
    if c = '\x60' then some ([], rest)
    else (readQuotedRest rest).map fun r => (c :: r.1, r.2)

/-- Reads a name in backticks at the head of a text: a doubled backtick stands for one, and a single one closes the name. -/
def readQuoted : List Char → Option (List Char × List Char)
  | '\x60' :: rest => readQuotedRest rest
  | _ => none

end FilterQuery.Sql

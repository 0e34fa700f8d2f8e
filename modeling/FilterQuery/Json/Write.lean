/-!
Writing JSON. What is written is a tree of values whose numbers are already text; it is laid out on one line without blanks, or
over many lines with two spaces for each level. -/

namespace FilterQuery.Json

inductive Tree
  | bool (b : Bool)
  /-- A number, or what stands for one that JSON cannot hold. -/
  | number (text : List Char)
  | string (s : String)
  | array (items : List Tree)
  | object (members : List (String × Tree))

/-- A character inside a string: quotes, backslashes and controls are escaped, and nothing else. -/
def escapeChar (c : Char) : List Char :=
  if c = '"' then ['\\', '"']
  else if c = '\\' then ['\\', '\\']
  else if c = '\x08' then ['\\', 'b']
  else if c = '\t' then ['\\', 't']
  else if c = '\n' then ['\\', 'n']
  else if c = '\x0c' then ['\\', 'f']
  else if c = '\r' then ['\\', 'r']
  else if c.toNat < 0x20 then
    ['\\', 'u', '0', '0', Nat.digitChar (c.toNat / 16), Nat.digitChar (c.toNat % 16)]
  else [c]

def writeString (s : String) : List Char :=
  '"' :: s.toList.flatMap escapeChar ++ ['"']

namespace Tree

mutual

/-- The tree on one line, without blanks. -/
def compact : Tree → List Char
  | .bool true => ['t', 'r', 'u', 'e']
  | .bool false => ['f', 'a', 'l', 's', 'e']
  | .number text => text
  | .string s => writeString s
  | .array items => '[' :: compactItems items ++ [']']
  | .object members => '\x7b' :: compactMembers members ++ ['\x7d']

def compactItems : List Tree → List Char
  | [] => []
  | [t] => t.compact
  | t :: u :: ts => t.compact ++ ',' :: compactItems (u :: ts)

def compactMembers : List (String × Tree) → List Char
  | [] => []
  | [(name, t)] => writeString name ++ ':' :: t.compact
  | (name, t) :: m :: ms => writeString name ++ ':' :: t.compact ++ ',' :: compactMembers (m :: ms)

end

/-- The start of a line at a level. -/
def newLine (level : Nat) : List Char :=
  '\n' :: List.replicate (2 * level) ' '

mutual

/-- The tree over many lines, its own first line excepted, which starts at the given level. -/
def indented (level : Nat) : Tree → List Char
  | .bool b => (Tree.bool b).compact
  | .number text => text
  | .string s => writeString s
  | .array [] => ['[', ']']
  | .array (t :: ts) => '[' :: indentedItems (level + 1) (t :: ts) ++ newLine level ++ [']']
  | .object [] => ['\x7b', '\x7d']
  | .object (m :: ms) => '\x7b' :: indentedMembers (level + 1) (m :: ms) ++ newLine level ++ ['\x7d']

def indentedItems (level : Nat) : List Tree → List Char
  | [] => []
  | [t] => newLine level ++ t.indented level
  | t :: u :: ts => newLine level ++ t.indented level ++ ',' :: indentedItems level (u :: ts)

def indentedMembers (level : Nat) : List (String × Tree) → List Char
  | [] => []
  | [(name, t)] => newLine level ++ writeString name ++ ':' :: ' ' :: t.indented level
  | (name, t) :: m :: ms =>
    newLine level ++ writeString name ++ ':' :: ' ' :: t.indented level ++ ',' :: indentedMembers level (m :: ms)

end

end Tree

end FilterQuery.Json

import FilterQuery.Text.Invisible

/-!
Text between double quotes, as it stands in messages: a reader can tell every character of it. -/

namespace FilterQuery.Text

/-- A character by its code point: `\u`, then the hexadecimal digits in braces. -/
def codePoint (c : Char) : List Char :=
  '\\' :: 'u' :: '\x7b' :: Nat.toDigits 16 c.toNat ++ ['\x7d']

def quotedChar (c : Char) : List Char :=
  if c = '"' then ['\\', '"']
  else if c = '\\' then ['\\', '\\']
  else if c = '\n' then ['\\', 'n']
  else if c = '\r' then ['\\', 'r']
  else if c = '\t' then ['\\', 't']
  else if c = '\x00' then ['\\', '0']
  else if isInvisible c then codePoint c
  else [c]

/-- A text in double quotes, with an escape for quotes, backslashes and characters that do not show. -/
def quoted (s : String) : String :=
  String.ofList ('"' :: s.toList.flatMap quotedChar ++ ['"'])

end FilterQuery.Text

import FilterQuery.Text.Alphanumeric
import FilterQuery.Text.Blank
import FilterQuery.Text.Utf8

/-!
Files of environment variables. Each line gives a value to a name; quotes may carry a value over several lines,
and a dollar sign puts in the value of another variable. A variable that has a value keeps it. Reading stops at the first line
that makes no sense, and what the lines before it say holds. -/

namespace FilterQuery.CommandLine

abbrev Variables := List (String × String)

namespace Variables

/-- A variable as the environment keeps it: one text of the name, an equals sign and the value. -/
def entry (v : String × String) : List Char :=
  v.1.toList ++ '=' :: v.2.toList

/-- The value of a variable: what follows the name and an equals sign in the first entry that begins with the two. A name with an
equals sign of its own reaches into the value of the variable in front of that sign. -/
def value? (env : Variables) (name : String) : Option String :=
  env.findSome? fun v => ((name.toList ++ ['=']).isPrefixOf? (entry v)).map String.ofList

end Variables

namespace VariableFile

/-- Where a reader of lines stands: a line goes on in the next one inside quotes and after an open escape or blank. -/
inductive LineState
  | complete
  | escape
  | blank
  | strong
  | strongEscape
  | weak
  | weakEscape
deriving DecidableEq

def openState (c : Char) : LineState :=
  if c = '\\' then .escape
  else if c = '"' then .weak
  else if c = '\'' then .strong
  else .complete

/-- One character. `none` is the start of a comment. -/
def lineStep : LineState → Char → Option LineState
  | .blank, c => if c = '#' then none else some (openState c)
  | .escape, _ => some .complete
  | .complete, c => if Text.isBlank c && c != '\n' && c != '\r' then some .blank else some (openState c)
  | .weak, c => some (if c = '\\' then .weakEscape else if c = '"' then .complete else .weak)
  | .weakEscape, _ => some .weak
  | .strong, c => some (if c = '\\' then .strongEscape else if c = '\'' then .complete else .strong)
  | .strongEscape, _ => some .strong

/-- The part of a line before a comment, and the state after the line, which a comment leaves empty. -/
def scanLine (s : LineState) : List Char → List Char × Option LineState
  | [] => ([], some s)
  | c :: rest =>
    match lineStep s c with
    | none => ([], none)
    | some s =>
      let (before, s) := scanLine s rest
      (c :: before, s)

def dropLineEnd (line : List Char) : List Char :=
  match line.reverse with
  | '\n' :: '\r' :: rest => rest.reverse
  | '\n' :: rest => rest.reverse
  | _ => line

/-- The lines joined where quotes carry over, without comments; `begun` is the part of a line read so far. A last line
that is not complete is dropped. -/
def joinLines (s : LineState) (begun : List Char) : List (List Char) → List (List Char)
  | [] => []
  | line :: rest =>
    let whole := begun ++ line
    if (whole.dropWhile Text.isBlank).head? = some '#' then [] :: joinLines .complete [] rest
    else match scanLine s line with
      | (before, none) => (begun ++ before) :: joinLines .complete [] rest
      | (_, some .complete) => dropLineEnd whole :: joinLines .complete [] rest
      | (_, some s) => joinLines s whole rest

/-- Where a reader of a value stands. Inside double quotes `weak` is set. -/
inductive ValueState
  | plain (weak : Bool)
  | strong
  | escape (weak : Bool)
  /-- After a dollar sign, with the letters and numbers of the name so far, last first. -/
  | name (weak : Bool) (letters : List Char)
  /-- After a dollar sign and an opening brace. -/
  | braced (weak : Bool) (letters : List Char)
  /-- After a blank: only a comment may follow. -/
  | ended
  /-- In a comment. -/
  | comment

/-- Puts the value of a variable at the end of a text that is kept last character first. -/
def substitute (env : Variables) (letters out : List Char) : List Char :=
  ((env.value? (String.ofList letters.reverse)).getD "").toList.reverse ++ out

/-- One character of a value. The text so far is kept last character first. -/
def valueStep (env : Variables) : ValueState → List Char → Char → Option (ValueState × List Char)
  | .comment, out, _ => some (.comment, out)
  | .ended, out, c =>
    if c = ' ' ∨ c = '\t' then some (.ended, out)
    else if c = '#' then some (.comment, out)
    else none
  | .escape weak, out, c =>
    if c ∈ ['\\', '\'', '"', '$', ' '] then some (.plain weak, c :: out)
    else if c = 'n' then some (.plain weak, '\n' :: out)
    else none
  | .strong, out, c => some (if c = '\'' then (.plain false, out) else (.strong, c :: out))
  | .name weak letters, out, c =>
    if Text.isAlphanumeric c then some (.name weak (c :: letters), out)
    else if c = '\x7b' ∧ letters.isEmpty then some (.braced weak [], out)
    else if c = '$' then some (.name weak [], substitute env letters out)
    else some (.plain weak, c :: substitute env letters out)
  | .braced weak letters, out, c =>
    if c = '\x7d' then some (.plain weak, substitute env letters out) else some (.braced weak (c :: letters), out)
  | .plain weak, out, c =>
    if c = '$' then some (.name weak [], out)
    else if c = '\\' then some (.escape weak, out)
    else if c = '"' then some (.plain (!weak), out)
    else if weak then some (.plain weak, c :: out)
    else if c = '\'' then some (.strong, out)
    else if c = ' ' ∨ c = '\t' then some (.ended, out)
    else some (.plain weak, c :: out)

def readValue (env : Variables) (s : ValueState) (out : List Char) : List Char → Option (List Char)
  | c :: rest =>
    match valueStep env s out c with
    | some (s, out) => readValue env s out rest
    | none => none
  | [] =>
    match s with
    | .strong | .braced .. | .plain true | .escape true | .name true _ => none
    | .name false letters => some (substitute env letters out).reverse
    | _ => some out.reverse

/-- A character of a name that a line gives a value to. -/
def isNameChar (c : Char) : Bool :=
  c.isAlphanum || c = '_' || c = '.'

/-- The name at the head of a text: a letter or `_`, then letters, digits, `_` and dots. -/
def readName (s : List Char) : Option (List Char × List Char) :=
  match s with
  | [] => none
  | c :: _ =>
    if c.isAlpha || c = '_' then
      some (s.takeWhile isNameChar, s.dropWhile isNameChar)
    else none

def skipBlanks (s : List Char) : List Char :=
  s.dropWhile Text.isBlank

def afterEquals : List Char → Option (List Char)
  | '=' :: rest => some rest
  | _ => none

/-- The name and the text of the value on a line, with an optional `export` in front of the name. -/
def splitLine (line : List Char) : Option (List Char × List Char) := do
  let (name, rest) ← readName line
  let rest := skipBlanks rest
  match afterEquals rest with
  | some value => return (name, skipBlanks value)
  | none =>
    if name = "export".toList then
      let (name, rest) ← readName rest
      let value ← afterEquals (skipBlanks rest)
      return (name, skipBlanks value)
    else none

/-- What a line says: nothing, or a name and its value. `none` is a line that makes no sense. -/
def readLine (env : Variables) (line : List Char) : Option (Option (String × String)) :=
  let line := skipBlanks (Text.trimEnd line)
  if line.isEmpty || line.head? = some '#' then some none
  else do
    let (name, value) ← splitLine line
    if value.isEmpty || value.head? = some '#' then return some (String.ofList name, "")
    else
      let text ← readValue env (.plain false) [] value
      return some (String.ofList name, String.ofList text)

/-- Adds what the lines say to variables, up to the first line that makes no sense. -/
def addLines (env : Variables) : List (List Char) → Variables
  | [] => env
  | line :: rest =>
    match readLine env line with
    | none => env
    | some none => addLines env rest
    | some (some (name, value)) =>
      if (env.value? name).isSome then addLines env rest
      else addLines (env ++ [(name, value)]) rest

/-- The lines of a file, each with its end, up to the first that is not UTF-8. -/
def decodeLines (begun : List UInt8) : List UInt8 → List (List Char)
  | [] => if begun.isEmpty then [] else
    match Text.decodeUtf8 begun.reverse with
    | .ok s => [s.toList]
    | .error _ => []
  | b :: rest =>
    if b = 10 then
      match Text.decodeUtf8 (b :: begun).reverse with
      | .ok s => s.toList :: decodeLines [] rest
      | .error _ => []
    else decodeLines (b :: begun) rest

/-- Adds what a file says to variables. A byte order mark at its start does not count. -/
def add (env : Variables) (file : List UInt8) : Variables :=
  let file := match file with
    | 0xef :: 0xbb :: 0xbf :: rest => rest
    | bytes => bytes
  addLines env (joinLines .complete [] (decodeLines [] file))

/-- Every name that a file could ask the environment for: the longest runs of letters and numbers, the longest runs of
characters that a line can give a value to, and what stands between braces. -/
def mentionedNames (file : List UInt8) : List String :=
  let content := (Text.decodeLossy file).toList
  let runs (inName : Char → Bool) : List (List Char) := content.splitOnP fun c => !inName c
  let braced := (content.splitOnP (· == '\x7b')).map fun part => part.takeWhile (· != '\x7d')
  ((runs Text.isAlphanumeric ++ runs isNameChar ++ braced).filter fun name => !name.isEmpty).map String.ofList

end VariableFile

end FilterQuery.CommandLine

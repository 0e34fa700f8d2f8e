import FilterQuery.Double.Numeral

/-!
The tokens of a JSON text. A machine reads the text one character at a time: between tokens it may begin one, inside a token it
goes on or stops. Reading never fails: where the text stops being JSON, one last token says so, and what
comes before it is still there to be judged. -/

namespace FilterQuery.Json

/-- A token. A string whose escapes leave half of a surrogate pair alone has no text. -/
inductive Token
  | arrayStart
  | arrayEnd
  | objectStart
  | objectEnd
  | comma
  | colon
  | null
  | bool (b : Bool)
  | number (n : Numeral)
  | string (text : Option String)
  /-- From here on the text is not JSON. -/
  | unreadable
deriving DecidableEq

/-- The white space of JSON: space, tab, line feed and carriage return. -/
def isSpace (c : Char) : Bool :=
  c = ' ' || c = '\t' || c = '\n' || c = '\r'

def hexDigit? (c : Char) : Option Nat :=
  if '0' ≤ c ∧ c ≤ '9' then some (c.toNat - '0'.toNat)
  else if 'a' ≤ c ∧ c ≤ 'f' then some (c.toNat - 'a'.toNat + 10)
  else if 'A' ≤ c ∧ c ≤ 'F' then some (c.toNat - 'A'.toNat + 10)
  else none

def isHighSurrogate (n : Nat) : Bool :=
  0xd800 ≤ n && n ≤ 0xdbff

def isLowSurrogate (n : Nat) : Bool :=
  0xdc00 ≤ n && n ≤ 0xdfff

def joinSurrogates (high low : Nat) : Nat :=
  0x10000 + (high - 0xd800) * 0x400 + (low - 0xdc00)

/-- The characters that code units stand for, where every surrogate has its other half next to it. -/
def charsOfUnits : List Nat → Option (List Char)
  | [] => some []
  | [n] => if isHighSurrogate n || isLowSurrogate n then none else some [Char.ofNat n]
  | n :: m :: rest =>
    if isHighSurrogate n && isLowSurrogate m then
      (charsOfUnits rest).map (Char.ofNat (joinSurrogates n m) :: ·)
    else if isHighSurrogate n || isLowSurrogate n then none
    else (charsOfUnits (m :: rest)).map (Char.ofNat n :: ·)

def simpleEscape? (c : Char) : Option Char :=
  match c with
  | '"' => some '"'
  | '\\' => some '\\'
  | '/' => some '/'
  | 'b' => some '\x08'
  | 'f' => some '\x0c'
  | 'n' => some '\n'
  | 'r' => some '\r'
  | 't' => some '\t'
  | _ => none

/-- Which part of a number is being read. -/
inductive NumberPart
  /-- After the sign: a digit must follow. -/
  | sign
  /-- After a leading zero: no digit may follow. -/
  | zero
  /-- Among the digits before the point. -/
  | whole
  /-- After the point: a digit must follow. -/
  | point
  /-- Among the digits after the point. -/
  | fraction
  /-- After the exponent mark: a sign or a digit must follow. -/
  | mark
  /-- After the sign of the exponent: a digit must follow. -/
  | exponentSign
  /-- Among the digits of the exponent. -/
  | exponent
deriving DecidableEq

/-- Where the machine stands. Texts under way are kept last character first. -/
inductive State
  /-- Between tokens. -/
  | between
  /-- Inside one of the words `null`, `true` and `false`: the next character, those after it, and what the word means. -/
  | word (expected : Char) (rest : List Char) (token : Token)
  /-- Inside a number. -/
  | number (part : NumberPart) (n : Numeral)
  /-- Inside a string. -/
  | string (units : List Nat)
  /-- After a backslash inside a string. -/
  | escape (units : List Nat)
  /-- Inside an escape by code unit, after so many of its four digits. -/
  | hex (units : List Nat) (count value : Nat)

inductive Move
  /-- The tokens that the character completes, none or up to two, and the new state. -/
  | go (done : List Token) (next : State)
  /-- The character cannot stand here; tokens before it may be complete. -/
  | stuck (done : List Token)

/-- A character that may begin a token, or a blank. -/
def beginToken (c : Char) : Move :=
  if isSpace c then .go [] .between
  else match c with
    | '[' => .go [.arrayStart] .between
    | ']' => .go [.arrayEnd] .between
    | '\x7b' => .go [.objectStart] .between
    | '\x7d' => .go [.objectEnd] .between
    | ',' => .go [.comma] .between
    | ':' => .go [.colon] .between
    | '"' => .go [] (.string [])
    | '-' => .go [] (.number .sign ⟨true, [], none, none⟩)
    | '0' => .go [] (.number .zero ⟨false, ['0'], none, none⟩)
    | 'n' => .go [] (.word 'u' ['l', 'l'] .null)
    | 't' => .go [] (.word 'r' ['u', 'e'] (.bool true))
    | 'f' => .go [] (.word 'a' ['l', 's', 'e'] (.bool false))
    | _ => if c.isDigit then .go [] (.number .whole ⟨false, [c], none, none⟩) else .stuck []

/-- A numeral with its digits in the order of reading. -/
def finishNumber (n : Numeral) : Token :=
  .number ⟨n.negative, n.whole.reverse, n.fraction.map List.reverse, n.exponent.map fun e => (e.1, e.2.reverse)⟩

/-- A number ends where a character does not go on with it; that character is read again between tokens. -/
def endNumber (n : Numeral) (c : Char) : Move :=
  match beginToken c with
  | .go done next => .go (finishNumber n :: done) next
  | .stuck done => .stuck (finishNumber n :: done)

def stepNumber (part : NumberPart) (n : Numeral) (c : Char) : Move :=
  let isMark := c = 'e' ∨ c = 'E'
  let toPoint : Move := .go [] (.number .point ⟨n.negative, n.whole, some [], none⟩)
  let toMark : Move := .go [] (.number .mark ⟨n.negative, n.whole, n.fraction, some (false, [])⟩)
  let wholeDigit : Numeral := ⟨n.negative, c :: n.whole, none, none⟩
  let fractionDigit : Move :=
    .go [] (.number .fraction ⟨n.negative, n.whole, some (c :: n.fraction.getD []), none⟩)
  let e := n.exponent.getD (false, [])
  let exponentDigit : Move := .go [] (.number .exponent ⟨n.negative, n.whole, n.fraction, some (e.1, c :: e.2)⟩)
  match part with
  | .sign =>
    if c = '0' then .go [] (.number .zero wholeDigit)
    else if c.isDigit then .go [] (.number .whole wholeDigit)
    else .stuck []
  | .zero =>
    if c.isDigit then .stuck []
    else if c = '.' then toPoint
    else if isMark then toMark
    else endNumber n c
  | .whole =>
    if c.isDigit then .go [] (.number .whole wholeDigit)
    else if c = '.' then toPoint
    else if isMark then toMark
    else endNumber n c
  | .point => if c.isDigit then fractionDigit else .stuck []
  | .fraction =>
    if c.isDigit then fractionDigit
    else if isMark then toMark
    else endNumber n c
  | .mark =>
    if c.isDigit then exponentDigit
    else if c = '+' then .go [] (.number .exponentSign n)
    else if c = '-' then .go [] (.number .exponentSign ⟨n.negative, n.whole, n.fraction, some (true, [])⟩)
    else .stuck []
  | .exponentSign => if c.isDigit then exponentDigit else .stuck []
  | .exponent => if c.isDigit then exponentDigit else endNumber n c

/-- The token of a string, from its code units, last first. -/
def finishString (units : List Nat) : Token :=
  .string ((charsOfUnits units.reverse).map String.ofList)

def step : State → Char → Move
  | .between, c => beginToken c
  | .word expected rest token, c =>
    if c = expected then
      match rest with
      | [] => .go [token] .between
      | r :: rs => .go [] (.word r rs token)
    else .stuck []
  | .number part n, c => stepNumber part n c
  | .string units, c =>
    if c = '"' then .go [finishString units] .between
    else if c = '\\' then .go [] (.escape units)
    else if c.toNat < 0x20 then .stuck []
    else .go [] (.string (c.toNat :: units))
  | .escape units, c =>
    if c = 'u' then .go [] (.hex units 0 0)
    else match simpleEscape? c with
      | some e => .go [] (.string (e.toNat :: units))
      | none => .stuck []
  | .hex units count value, c =>
    match hexDigit? c with
    | none => .stuck []
    | some d =>
      if count = 3 then .go [] (.string ((value * 16 + d) :: units))
      else .go [] (.hex units (count + 1) (value * 16 + d))

/-- What the end of the text makes of a token under way. -/
def finish : State → List Token
  | .between => []
  | .number .zero n | .number .whole n | .number .fraction n | .number .exponent n => [finishNumber n]
  | _ => [.unreadable]

def tokensFrom (s : State) : List Char → List Token
  | [] => finish s
  | c :: rest =>
    match step s c with
    | .stuck done => done ++ [.unreadable]
    | .go [] next => tokensFrom next rest
    | .go done next => done ++ tokensFrom next rest

def tokens (text : List Char) : List Token :=
  tokensFrom .between text

end FilterQuery.Json

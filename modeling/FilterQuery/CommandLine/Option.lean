import FilterQuery.Settings.Limits

/-!
The options of the command line: their names, the values they take, and the environment variables that stand in for
them. Options that set limits may be given before and after the name of a command, the others only after it. -/

namespace FilterQuery.CommandLine

inductive Opt
  | config
  | maxFilterBytes
  | maxFilterDepth
  | castWidth
  | defaultPageSize
  | maxPageSize
  | filter
  | table
  | uniqueId
  | attributes
  | cursor
  | pageSize
  | row
deriving DecidableEq

inductive ArgKind
  /-- Any text. -/
  | text
  /-- A text that is not empty. -/
  | path
  /-- An unsigned number up to a greatest one; `minusZero` also lets zero have a minus sign. -/
  | number (max : Nat) (minusZero : Bool)

inductive ArgValue
  | text (s : String)
  | number (n : Nat)

namespace Opt

/-- The options that may stand on either side of the command. -/
def shared : List Opt :=
  [config, maxFilterBytes, maxFilterDepth, castWidth, defaultPageSize, maxPageSize]

def long : Opt → String
  | config => "config"
  | maxFilterBytes => "max-filter-bytes"
  | maxFilterDepth => "max-filter-depth"
  | castWidth => "cast-width"
  | defaultPageSize => "default-page-size"
  | maxPageSize => "max-page-size"
  | filter => "filter"
  | table => "table"
  | uniqueId => "unique-id"
  | attributes => "attributes"
  | cursor => "cursor"
  | pageSize => "page-size"
  | row => "row"

def short? : Opt → Option Char
  | config => some 'c'
  | filter => some 'f'
  | table => some 't'
  | uniqueId => some 'u'
  | attributes => some 'a'
  | pageSize => some 'n'
  | row => some 'r'
  | _ => none

def kind : Opt → ArgKind
  | config => .path
  | castWidth => .number 65535 true
  | maxFilterBytes | maxFilterDepth | defaultPageSize | maxPageSize | pageSize => .number (UInt64.size - 1) false
  | _ => .text

/-- The environment variable that is used where the option is not given. -/
def environmentName? : Opt → Option String
  | config => some "FILTERKIT_CONFIG"
  | maxFilterBytes => some "FILTERKIT_MAX_FILTER_BYTES"
  | maxFilterDepth => some "FILTERKIT_MAX_FILTER_DEPTH"
  | castWidth => some "FILTERKIT_CAST_WIDTH"
  | defaultPageSize => some "FILTERKIT_DEFAULT_PAGE_SIZE"
  | maxPageSize => some "FILTERKIT_MAX_PAGE_SIZE"
  | _ => none

end Opt

namespace ArgKind

/-- A number in decimal digits, with an optional plus sign. -/
def readUnsigned (s : List Char) : Option Nat :=
  let digits := match s with
    | '+' :: r => r
    | r => r
  if !digits.isEmpty && digits.all Char.isDigit then some (Nat.ofDigitChars 10 digits 0) else none

/-- A number that may have a minus sign if it is zero. -/
def readNumber (minusZero : Bool) : List Char → Option Nat
  | '-' :: digits => if minusZero && !digits.isEmpty && digits.all (· == '0') then some 0 else none
  | s => readUnsigned s

def read? (kind : ArgKind) (s : String) : Option ArgValue :=
  match kind with
  | text => some (.text s)
  | path => if s.isEmpty then none else some (.text s)
  | number max minusZero => (readNumber minusZero s.toList).bind fun n => if n ≤ max then some (.number n) else none

end ArgKind

end FilterQuery.CommandLine

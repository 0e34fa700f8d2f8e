/-!
Reading bytes as UTF-8. A sequence is read one character at a time: what stands at its head is a character, or the longest
run of bytes that begins a character and does not go on as one. Such a run is what a failure reports
and what a lossy reading replaces by one U+FFFD. -/

namespace FilterQuery.Text

/-- What stands at the head of a sequence of bytes. -/
inductive Utf8Head
  /-- A character of so many bytes. -/
  | char (c : Char) (size : Nat)
  /-- So many bytes that no character begins with, or one byte that begins none. -/
  | invalid (size : Nat)
  /-- The sequence ends inside a character. -/
  | incomplete

def isContinuation (b : UInt8) : Bool :=
  b.toNat / 64 == 2

def continuationBits (b : UInt8) : Nat :=
  b.toNat % 64

/-- Whether a second byte may follow a first byte: the bounds exclude overlong forms, surrogates and what lies
above the last code point. -/
def mayFollow (first second : UInt8) : Bool :=
  let f := first.toNat
  let s := second.toNat
  if f = 0xe0 then 0xa0 ≤ s && s ≤ 0xbf
  else if f = 0xed then 0x80 ≤ s && s ≤ 0x9f
  else if f = 0xf0 then 0x90 ≤ s && s ≤ 0xbf
  else if f = 0xf4 then 0x80 ≤ s && s ≤ 0x8f
  else isContinuation second

/-- The head of a sequence whose first byte is `first`. -/
def utf8Head (first : UInt8) (rest : List UInt8) : Utf8Head :=
  let f := first.toNat
  if f < 0x80 then .char (Char.ofNat f) 1
  else if 0xc2 ≤ f ∧ f ≤ 0xdf then
    match rest with
    | [] => .incomplete
    | b :: _ =>
      if isContinuation b then .char (Char.ofNat (f % 32 * 64 + continuationBits b)) 2 else .invalid 1
  else if 0xe0 ≤ f ∧ f ≤ 0xef then
    match rest with
    | [] => .incomplete
    | b :: rest =>
      if mayFollow first b then
        match rest with
        | [] => .incomplete
        | c :: _ =>
          if isContinuation c then
            .char (Char.ofNat ((f % 16 * 64 + continuationBits b) * 64 + continuationBits c)) 3
          else .invalid 2
      else .invalid 1
  else if 0xf0 ≤ f ∧ f ≤ 0xf4 then
    match rest with
    | [] => .incomplete
    | b :: rest =>
      if mayFollow first b then
        match rest with
        | [] => .incomplete
        | c :: rest =>
          if isContinuation c then
            match rest with
            | [] => .incomplete
            | d :: _ =>
              if isContinuation d then
                let low := continuationBits c * 64 + continuationBits d
                .char (Char.ofNat ((f % 8 * 64 + continuationBits b) * 4096 + low)) 4
              else .invalid 3
          else .invalid 2
      else .invalid 1
  else .invalid 1

inductive Utf8Fault
  /-- So many bytes from an index on do not begin a character. -/
  | invalid (size index : Nat)
  /-- The character at an index is cut off by the end. -/
  | incomplete (index : Nat)
deriving DecidableEq

/-- The bytes still to be skipped are part of the character before them; `index` counts the bytes read. -/
def decodeUtf8From (index : Nat) : Nat → List UInt8 → Except Utf8Fault (List Char)
  | _, [] => .ok []
  | skip + 1, _ :: rest => decodeUtf8From (index + 1) skip rest
  | 0, b :: rest =>
    match utf8Head b rest with
    | .char c size => (decodeUtf8From (index + 1) (size - 1) rest).map (c :: ·)
    | .invalid size => .error (.invalid size index)
    | .incomplete => .error (.incomplete index)

def decodeUtf8 (bytes : List UInt8) : Except Utf8Fault String :=
  (decodeUtf8From 0 0 bytes).map String.ofList

/-- The characters that bytes encode, with one U+FFFD for each run that encodes none. -/
def decodeLossyFrom : Nat → List UInt8 → List Char
  | _, [] => []
  | skip + 1, _ :: rest => decodeLossyFrom skip rest
  | 0, b :: rest =>
    match utf8Head b rest with
    | .char c size => c :: decodeLossyFrom (size - 1) rest
    | .invalid size => '\uFFFD' :: decodeLossyFrom (size - 1) rest
    | .incomplete => ['\uFFFD']

/-- The text that bytes encode, with one U+FFFD for each run that encodes none. -/
def decodeLossy (bytes : List UInt8) : String :=
  String.ofList (decodeLossyFrom 0 bytes)

def utf8Bytes (s : String) : List UInt8 :=
  s.toUTF8.data.toList

namespace Utf8Fault

def message : Utf8Fault → String
  | invalid size index => s!"invalid utf-8 sequence of {size} bytes from index {index}"
  | incomplete index => s!"incomplete utf-8 byte sequence from index {index}"

end Utf8Fault

end FilterQuery.Text

import FilterQuery.Json.Token

/-!
JSON documents, whole or broken. A document holds everything that stands before the place where a text stops being JSON, in the
order of the text: an array or object says whether it is closed, and a value that cannot be read is `broken`. A
reader that walks a document from left to right therefore meets a fault of the text and a fault of the
content in the order in which they stand. -/

namespace FilterQuery.Json

/-- A document. Where a member's name should stand the text may hold any value; such a member is the last one. -/
inductive Doc
  | null
  | bool (b : Bool)
  | number (n : Numeral)
  | string (text : Option String)
  | array (items : List Doc) (closed : Bool)
  | object (members : List (Doc × Doc)) (closed : Bool)
  | broken

/-- What is left of the tokens after the part that was read. -/
abbrev Rest := List Token

mutual

/-- The value at the head of the tokens. The first argument bounds the calls within calls. -/
def readValue : Nat → List Token → Doc × Rest
  | 0, ts => (.broken, ts)
  | _ + 1, .null :: ts => (.null, ts)
  | _ + 1, .bool b :: ts => (.bool b, ts)
  | _ + 1, .number n :: ts => (.number n, ts)
  | _ + 1, .string s :: ts => (.string s, ts)
  | _ + 1, .arrayStart :: .arrayEnd :: ts => (.array [] true, ts)
  | calls + 1, .arrayStart :: ts =>
    let (items, closed, rest) := readItems calls ts
    (.array items closed, rest)
  | _ + 1, .objectStart :: .objectEnd :: ts => (.object [] true, ts)
  | calls + 1, .objectStart :: ts =>
    let (members, closed, rest) := readMembers calls ts
    (.object members closed, rest)
  | _ + 1, ts => (.broken, ts)

/-- The items of an array up to its end, and whether it ends well. -/
def readItems : Nat → List Token → List Doc × Bool × Rest
  | 0, ts => ([], false, ts)
  | calls + 1, ts =>
    let (item, rest) := readValue calls ts
    match rest with
    | .comma :: rest =>
      let (items, closed, rest) := readItems calls rest
      (item :: items, closed, rest)
    | .arrayEnd :: rest => ([item], true, rest)
    | rest => ([item], false, rest)

/-- The members of an object up to its end, and whether it ends well. -/
def readMembers : Nat → List Token → List (Doc × Doc) × Bool × Rest
  | 0, ts => ([], false, ts)
  | calls + 1, .string s :: .colon :: ts =>
    let (value, rest) := readValue calls ts
    match rest with
    | .comma :: rest =>
      let (members, closed, rest) := readMembers calls rest
      ((.string s, value) :: members, closed, rest)
    | .objectEnd :: rest => ([(.string s, value)], true, rest)
    | rest => ([(.string s, value)], false, rest)
  | calls + 1, ts =>
    let (name, rest) := readValue calls ts
    ([(name, .broken)], false, rest)

end

namespace Doc

/-- The document at the head of a text, and whether nothing but white space follows it. Each token opens at most
two calls. -/
def ofText (text : List Char) : Doc × Bool :=
  let ts := tokens text
  let (doc, rest) := readValue (2 * ts.length + 1) ts
  (doc, rest.isEmpty)

def name? : Doc → Option String
  | .string s => s
  | _ => none

mutual

/-- Nothing in the document is cut off; how deep it goes and how large its numbers are does not matter. -/
def isWellFormed : Doc → Bool
  | .array items closed => closed && allWellFormed items
  | .object members closed => closed && membersWellFormed members
  | .broken => false
  | _ => true

def allWellFormed : List Doc → Bool
  | [] => true
  | d :: ds => d.isWellFormed && allWellFormed ds

def membersWellFormed : List (Doc × Doc) → Bool
  | [] => true
  | (name, value) :: ms => name.isWellFormed && value.isWellFormed && membersWellFormed ms

end

end Doc

end FilterQuery.Json

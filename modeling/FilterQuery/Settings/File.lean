import FilterQuery.Json.Read
import FilterQuery.Record.Columns
import FilterQuery.Settings.Limits

/-!
Settings files. A settings file is a JSON object with the sections `filter` and `pagination`, each an object of limits or an array of
them in a fixed order. A limit or section that is null counts as absent. Other members of a section are
skipped; other members of the file are read and their names are kept in the order of the file, so that they can be reported. -/

namespace FilterQuery

/-- What a settings file says. -/
structure SettingsFile where
  limits : LimitSettings
  /-- The names of the members that are no section, in the order in which they first occur. -/
  extra : List String

namespace SettingsFile

/-- The names of the members that are no section, in the order of names. -/
def unknown (file : SettingsFile) : List String :=
  (Columns.ofList (file.extra.map fun name => (name, ()))).map Prod.fst

/-- A limit in a section of a settings file. -/
structure LimitMember where
  name : String
  /-- The greatest number that may be given. -/
  max : Nat
  /-- The name of its range. -/
  range : String

def filterMembers : List LimitMember :=
  [⟨"max_bytes", UInt64.size - 1, "usize"⟩, ⟨"max_depth", UInt64.size - 1, "usize"⟩]

def paginationMembers : List LimitMember :=
  [⟨"cast_width", 65535, "u16"⟩, ⟨"default_page_size", UInt64.size - 1, "u64"⟩, ⟨"max_page_size", UInt64.size - 1, "u64"⟩]

/-- The members of a section that have been read, by name. -/
abbrev Draft := List (String × Option Nat)

def limitOf (d : Draft) (name : String) : Option Nat :=
  (d.lookup name).join

def LimitMember.read (m : LimitMember) : Json.Reader (Option Nat) :=
  Json.Doc.readOption (Json.Doc.readNat m.max m.range)

def readSectionMember (known : List LimitMember) (d : Draft) (m : Json.Doc × Json.Doc) : Except Json.Fault Draft := do
  let name ← m.1.readMemberName
  match known.find? fun k => k.name == name with
  | none => m.2.skip.map fun _ => d
  | some k =>
    if (d.lookup name).isSome then throw (.duplicateMember name)
    (k.read m.2).map fun n => (name, n) :: d

/-- Reads the items of a section in array form: all limits must be there, and nothing else. -/
def readSectionItems (known : List LimitMember) (expected : String) (items : List Json.Doc) (closed : Bool) :
    Except Json.Fault Draft := do
  let d ← (known.zip items).mapM fun m => (m.1.read m.2).map fun n => (m.1.name, n)
  if items.length < known.length then
    Json.Doc.close closed
    throw (.wrongLength items.length s!"{expected} with {known.length} elements")
  Json.Doc.close (closed && items.length ≤ known.length)
  return d

/-- Reads a section; `expected` says what it is. -/
def readSection (known : List LimitMember) (expected : String) (levels : Nat) : Json.Reader Draft
  | .object members closed => do
    let _ ← Json.Doc.enter levels
    let d ← members.foldlM (readSectionMember known) []
    Json.Doc.close closed
    return d
  | .array items closed => do
    let _ ← Json.Doc.enter levels
    readSectionItems known expected items closed
  | d => d.wrongKind expected

/-- What has been read of a settings file. -/
structure FileDraft where
  filter : Option (Option Draft)
  pagination : Option (Option Draft)
  extra : List String

/-- Puts a name behind the others, unless it is among them. -/
def noteName (names : List String) (name : String) : List String :=
  if name ∈ names then names else names ++ [name]

def readMember (levels : Nat) (d : FileDraft) (m : Json.Doc × Json.Doc) : Except Json.Fault FileDraft := do
  let name ← m.1.readMemberName
  if name = "filter" then
    if d.filter.isSome then throw (.duplicateMember name)
    let s ← m.2.readOption (readSection filterMembers "struct FilterFileConfig" levels)
    return { d with filter := some s }
  else if name = "pagination" then
    if d.pagination.isSome then throw (.duplicateMember name)
    let s ← m.2.readOption (readSection paginationMembers "struct PaginationFileConfig" levels)
    return { d with pagination := some s }
  else if m.2.isReadable levels then
    return { d with extra := noteName d.extra name }
  else throw .malformed

def ofSections (filter pagination : Draft) (extra : List String) : SettingsFile where
  limits := ⟨limitOf filter "max_bytes", limitOf filter "max_depth", limitOf pagination "cast_width",
    limitOf pagination "default_page_size", limitOf pagination "max_page_size"⟩
  extra := extra

def empty : SettingsFile :=
  ofSections [] [] []

def read (levels : Nat) : Json.Reader SettingsFile
  | .object members closed => do
    let levels ← Json.Doc.enter levels
    let d ← members.foldlM (readMember levels) ⟨none, none, []⟩
    Json.Doc.close closed
    return ofSections (d.filter.join.getD []) (d.pagination.join.getD []) d.extra
  | d => d.wrongKind "struct FileConfig"

def ofJson (text : String) : Except Json.Fault SettingsFile :=
  Json.read (read Json.maxDepth) text

end SettingsFile

end FilterQuery

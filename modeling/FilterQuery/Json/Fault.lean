import FilterQuery.Double.Layout
import FilterQuery.Text.Quoted

/-!
What is wrong with a JSON text: it is not JSON, or it is JSON that does not say what was asked for. A fault of the
second sort has a message. -/

namespace FilterQuery.Json

/-- A value that was found where another kind was expected. -/
inductive Found
  | null
  | bool (b : Bool)
  | integer (n : Int)
  | float (x : Double)
  | string (s : String)
  | sequence
  | map
deriving DecidableEq

/-- Why a text cannot be read as what was asked for. -/
inductive Fault
  /-- The text is not JSON, nests too deep, or holds a number beyond the range of doubles. -/
  | malformed
  /-- A value of another kind. -/
  | wrongKind (found : Found) (expected : String)
  /-- An integer outside the range of its target. -/
  | outOfRange (n : Int) (expected : String)
  /-- Too few items in an array that stands for a record. -/
  | wrongLength (length : Nat) (expected : String)
  /-- A member that occurs twice. -/
  | duplicateMember (name : String)
  /-- A member that is not one of the known ones. -/
  | unknownMember (name : String) (known : List String)
  /-- A member that must be there. -/
  | missingMember (name : String)
  /-- A name that is not one of the known ones. -/
  | unknownVariant (name : String) (known : List String)
  /-- A value that fits none of the kinds of a type. -/
  | noVariant (type : String)
deriving DecidableEq

namespace Found

/-- The kind of the value, and the value itself where it is short. -/
def message : Found → String
  | null => "null"
  | bool b => s!"boolean `{b}`"
  | integer n => s!"integer `{n}`"
  | float x => "floating point `" ++ String.ofList (DoubleLayout.json.write x) ++ "`"
  | string s => "string " ++ Text.quoted s
  | sequence => "sequence"
  | map => "map"

end Found

namespace Fault

def listNames (names : List String) : String :=
  ", ".intercalate (names.map fun n => "`" ++ n ++ "`")

/-- What is wrong with the content; nothing is said about a text that is not JSON. -/
def message? : Fault → Option String
  | malformed => none
  | wrongKind found expected => some ("invalid type: " ++ found.message ++ ", expected " ++ expected)
  | outOfRange n expected => some ("invalid value: " ++ (Found.integer n).message ++ ", expected " ++ expected)
  | wrongLength length expected => some s!"invalid length {length}, expected {expected}"
  | duplicateMember name => some ("duplicate field `" ++ name ++ "`")
  | unknownMember name known => some ("unknown field `" ++ name ++ "`, expected one of " ++ listNames known)
  | missingMember name => some ("missing field `" ++ name ++ "`")
  | unknownVariant name known => some ("unknown variant `" ++ name ++ "`, expected one of " ++ listNames known)
  | noVariant type => some ("data did not match any variant of untagged enum " ++ type)

end Fault

end FilterQuery.Json

import FilterQuery.CommandLine.Arguments
import FilterQuery.CommandLine.VariableFile
import FilterQuery.Filter.Json
import FilterQuery.Keyset.Request
import FilterQuery.Row.AttributeJson
import FilterQuery.Row.Decode
import FilterQuery.Settings.Load

/-!
What the program does with a command line. The outcome depends only on the arguments, the environment and the files in
the working directory; it is a text to print or the reason why there is none. -/

namespace FilterQuery.CommandLine

/-- What the program finds around it. -/
structure Surroundings where
  env : Variables
  files : String → FileContent

inductive Fault
  | settings (fault : SettingsFault)
  | filter (cause : Failure)
  | compile (cause : Failure)
  | attributes (fault : Json.Fault)
  | uniqueId (cause : Failure)
  | assemble (cause : Failure)
  | row (fault : Json.Fault)
  | decode (cause : Failure)

inductive Outcome
  | printed (text : String)
  | failed (fault : Fault)
  | stopped (stop : Stop)

def versionText : String := "filterkit 0.3.2\n"

def usageText : String :=
  "Usage: filterkit [OPTIONS] <compile|page|decode> [OPTIONS]"

/-- What went wrong: the step that failed, then the causes from the outside in. -/
def Fault.message : Fault → String
  | settings fault => fault.message
  | filter cause => ": ".intercalate ("Invalid filter" :: cause.chain)
  | compile cause => ": ".intercalate ("Failed to compile filter" :: cause.chain)
  | attributes _ => "Failed to parse attribute descriptors"
  | uniqueId cause => ": ".intercalate cause.chain
  | assemble cause => ": ".intercalate ("Failed to assemble page query" :: cause.chain)
  | row _ => "Failed to parse row"
  | decode cause => ": ".intercalate ("Failed to decode row" :: cause.chain)

/-- The column of the unique id where none is named. -/
def defaultUniqueId : String := "id"

/-- The column of the unique id: the one that is named, or the one that the attributes mark. -/
def uniqueIdColumn (uniqueId attributes : Option String) : Except Fault String :=
  match uniqueId, attributes with
  | some name, _ => .ok name
  | none, some json => do
    let list ← (Attribute.ofJson json).mapError .attributes
    let a ← (Attribute.firstUniqueId list).mapError .uniqueId
    return a.column
  | none, none => .ok defaultUniqueId

def Command.answer (limits : Limits) : Command → Except Fault Json.Tree
  | compile filter => do
    let f ← (Filter.parse filter limits.maxFilterBytes limits.maxFilterDepth).mapError .filter
    let s ← (Sql.compile f).mapError .compile
    return s.toJson
  | page table uniqueId attributes filter cursor pageSize => do
    let column ← uniqueIdColumn uniqueId attributes
    let f ← match filter with
      | some text => (Filter.parseOrNone text limits.maxFilterBytes limits.maxFilterDepth).mapError .filter
      | none => pure none
    let request := (PageRequest.ofTable table column).filteredBy f |>.startingAfter cursor
      |>.ofSize (pageSize.getD limits.defaultPageSize) |>.under limits
    let s ← request.statement.mapError .assemble
    return s.toJson
  | decode attributes row => do
    let list ← (Attribute.ofJson attributes).mapError .attributes
    let cells ← (Row.ofJson row).mapError .row
    let values ← (Row.decode cells list).mapError .decode
    return Row.valuesToJson values

/-- What an invocation prints: indented JSON and a line end. -/
def Invocation.answer (files : String → FileContent) (i : Invocation) : Except Fault String := do
  let limits ← (Limits.load files i.config i.limits).mapError .settings
  let tree ← i.command.answer limits
  return String.ofList (tree.indented 0 ++ ['\n'])

def variableFileName : String := ".env"

/-- The variables of the environment and of the file that adds to it. -/
def Surroundings.allVariables (s : Surroundings) : Variables :=
  match s.files variableFileName with
  | .bytes content => VariableFile.add s.env content
  | _ => s.env

def run (s : Surroundings) (args : List String) : Outcome :=
  let env := s.allVariables
  match parse env.value? args with
  | .error stop => .stopped stop
  | .ok invocation =>
    match invocation.answer s.files with
    | .ok text => .printed text
    | .error fault => .failed fault

end FilterQuery.CommandLine

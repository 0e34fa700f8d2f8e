import FilterQuery.CommandLine.Run

/-!
The program: it gathers its arguments, the environment and the files that it may need, and prints what the command line
asks for. -/

namespace FilterQuery.CommandLine

/-- What is found under a path. A path that leads nowhere, for whatever reason, is missing. -/
def readPath (path : String) : IO FileContent := do
  try
    let content ← IO.FS.readBinFile path
    return .bytes content.data.toList
  catch
    | .noFileOrDirectory .. | .invalidArgument .. => return .missing
    | .inappropriateType _ code _ =>
      return if code = 21 then .unreadable "Is a directory (os error 21)" else .missing
    | .permissionDenied .. => return .unreadable "Permission denied (os error 13)"
    | e => return .unreadable (toString e)

/-- The variables of the environment that the program can ask for. -/
def readVariables (variableFile : FileContent) : IO Variables := do
  let mentioned := match variableFile with
    | .bytes content => VariableFile.mentionedNames content
    | _ => []
  let mut found : Variables := []
  for name in Opt.shared.filterMap Opt.environmentName? ++ mentioned do
    if let some value ← IO.getEnv name then
      found := found ++ [(name, value)]
  return found

/-- The files that the program may read: the file of variables, the settings file, and the one that is named. -/
def readFiles (variableFile : FileContent) (env : Variables) (args : List String) :
    IO (String → FileContent) := do
  let surroundings : Surroundings :=
    ⟨env, fun path => if path = variableFileName then variableFile else .missing⟩
  let all := surroundings.allVariables
  let path := match parse all.value? args with
    | .ok invocation => invocation.config.getD SettingsFile.localName
    | .error _ => SettingsFile.localName
  let settingsFile ← readPath path
  return fun p => if p = variableFileName then variableFile else if p = path then settingsFile else .missing

end FilterQuery.CommandLine

open FilterQuery.CommandLine in
/-- Runs the program: its exit code is 0 for an answer, 1 for a failure and 2 for arguments that make no sense. -/
def main (args : List String) : IO UInt32 := do
  let variableFile ← readPath variableFileName
  let env ← readVariables variableFile
  let files ← readFiles variableFile env args
  match run ⟨env, files⟩ args with
  | .printed text => IO.print text; return 0
  | .failed fault => IO.eprintln ("\nError: " ++ fault.message ++ "\n"); return 1
  | .stopped .version => IO.print versionText; return 0
  | .stopped .help => IO.println usageText; return 0
  | .stopped .usage => IO.eprintln usageText; return 2

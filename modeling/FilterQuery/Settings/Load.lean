import FilterQuery.Settings.File

/-!
Loading settings. A settings file that is named must be there; where none is named, the one in the working directory is used
if there is one. What is set on the command line counts before what the file says. -/

namespace FilterQuery

inductive FileContent
  | missing
  /-- Something that cannot be read, and why. -/
  | unreadable (reason : String)
  | bytes (content : List UInt8)

/-- Why there are no settings. -/
inductive SettingsFault
  | notFound (path : String)
  | unreadable (path reason : String)
  | unparsable (path : String) (fault : Json.Fault)
  | limits (fault : LimitFault)

namespace SettingsFault

/-- What went wrong, but for what is wrong inside a file that is no settings file. -/
def message : SettingsFault → String
  | notFound path => "Config file not found: " ++ path
  | unreadable path reason => "Failed to read config file: " ++ path ++ ": " ++ reason
  | unparsable path _ => "Failed to parse config file: " ++ path
  | limits fault => fault.message

/-- What went wrong, with what is wrong inside a file where it is JSON at least. -/
def fullMessage (f : SettingsFault) : String :=
  match f with
  | unparsable _ fault =>
    match fault.message? with
    | some m => f.message ++ ": " ++ m
    | none => f.message
  | _ => f.message

end SettingsFault

namespace SettingsFile

def localName : String := "filterkit.json"

def ofBytes (path : String) (content : List UInt8) : Except SettingsFault SettingsFile :=
  match Text.decodeUtf8 content with
  | .error _ => .error (.unreadable path "stream did not contain valid UTF-8")
  | .ok text => (ofJson text).mapError (.unparsable path)

/-- Reads the settings file that is named, or else the one in the working directory. -/
def find (files : String → FileContent) (path : Option String) : Except SettingsFault SettingsFile :=
  let name := path.getD localName
  match files name with
  | .bytes content => ofBytes name content
  | .unreadable reason => .error (.unreadable name reason)
  | .missing => if path.isSome then .error (.notFound name) else .ok empty

end SettingsFile

def Limits.load (files : String → FileContent) (path : Option String) (settings : LimitSettings) :
    Except SettingsFault Limits :=
  (SettingsFile.find files path).bind fun file => (settings.atop file.limits).mapError .limits

end FilterQuery

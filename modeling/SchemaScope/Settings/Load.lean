import SchemaScope.FileTree
import SchemaScope.Settings.OfToml
import SchemaScope.Text.Utf8

/-!
Where settings are found: in the file that a variable names, or else in the
first of two customary places that is there. Without any of them the settings
are empty.
-/

namespace SchemaScope.Settings

/-- The variable that names the file with the settings. -/
def pathVariable : String := "SCHEMALENS_CONFIG"

/-- The file in the working directory. -/
def localPath : String := "schemalens.toml"

/-- The file of the user, below the directory with the user's configuration. -/
def userPath (directory : String) : String :=
  directory ++ "/schemalens/config.toml"

def ofFile (files : String → FileState) (path : String) :
    Except SettingsError Settings :=
  match files path with
  | .absent => .error (.fileNotFound path)
  | .directory => .error (.unreadable "Is a directory (os error 21)")
  | .file content =>
    match Text.decodeUtf8? content with
    | some text => ofToml text
    | none => .error (.unreadable "stream did not contain valid UTF-8")

/-- The settings that apply. -/
def load (env : Environment) (files : String → FileState)
    (userDirectory : String) : Except SettingsError Settings :=
  match env.get? pathVariable with
  | some path => ofFile files path
  | none =>
    if files localPath ≠ .absent then ofFile files localPath
    else if files (userPath userDirectory) ≠ .absent then
      ofFile files (userPath userDirectory)
    else .ok {}

end SchemaScope.Settings

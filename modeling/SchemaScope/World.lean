import SchemaScope.Settings.Load
import SchemaScope.Sqlite.Repository

/-!
The world a program runs in, and what is found there: settings and databases.
-/

namespace SchemaScope

/-- What a program sees of its surroundings. -/
structure World where
  environment : Environment
  files : (path : String) → FileState
  /-- The directory with the configuration of the user. -/
  userDirectory : String
  /-- Open the database of a data source. -/
  database : (source : String) → Except String Sqlite.Catalog

namespace World

def settings (world : World) : Except SettingsError Settings :=
  Settings.load world.environment world.files world.userDirectory

end World

/-- Open the repository of a connection. Only file databases have one. -/
def Connection.connect (c : Connection)
    (database : String → Except String Sqlite.Catalog) :
    Outcome Repository := do
  c.validate.mapError ConnectionError.toSchemaError
  match c.dialect with
  | .sqlite =>
    match database c.source with
    | .ok catalog => return catalog.repository
    | .error reason => throw (.connectionFailed (c.source ++ ": " ++ reason))
  | other => throw (.unsupportedDriver other.name)

end SchemaScope

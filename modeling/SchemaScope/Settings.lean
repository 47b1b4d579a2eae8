import SchemaScope.Connection
import SchemaScope.Settings.Template
import SchemaScope.SortedMap

/-!
Settings: connections under names, and how the language server logs. A
connection is kept as it was written; its dialect is recognised and its data
source expanded only when it is used.
-/

namespace SchemaScope

/-- The cause of settings that cannot be used. -/
inductive SettingsError where
  /-- There is no file under the path. -/
  | fileNotFound (path : String)
  /-- The file cannot be read as text. -/
  | unreadable (reason : String)
  /-- The text is no TOML document, or not one that describes settings. -/
  | malformed
  /-- A data source refers to a variable that is not set. -/
  | missingVariable (name : String)
  /-- No connection has the name. -/
  | connectionNotFound (name : String)
  /-- The text names no dialect; it is held as written. -/
  | unsupportedDriver (text : String)
  deriving DecidableEq, Repr

namespace SettingsError

/-- The text of an error. Where a document goes wrong is not said. -/
def message : SettingsError → String
  | fileNotFound path => "Config file not found: " ++ path
  | unreadable reason => "Failed to read config file: " ++ reason
  | malformed => "Failed to parse config file: "
  | missingVariable name => "Missing environment variable: " ++ name
  | connectionNotFound name => "Connection not found: " ++ name
  | unsupportedDriver text => "Unsupported driver: " ++ text

end SettingsError

/-- A connection as it is written in settings. -/
structure ConnectionEntry where
  driver : String
  dataSource : String
  deriving DecidableEq, Repr

namespace ConnectionEntry

def dialect (entry : ConnectionEntry) : Except SettingsError Dialect :=
  match Dialect.ofText entry.driver with
  | .ok d => .ok d
  | .error _ => .error (.unsupportedDriver entry.driver)

/-- The data source of an entry, with its references to variables replaced. -/
def source (entry : ConnectionEntry) (env : Environment) :
    Except SettingsError String :=
  (Settings.expand env entry.dataSource).mapError .missingVariable

def connection (entry : ConnectionEntry) (env : Environment) :
    Except SettingsError Connection := do
  let dialect ← entry.dialect
  let source ← entry.source env
  return ⟨dialect, source⟩

end ConnectionEntry

/-- What the language server writes to its log. -/
structure LogSettings where
  filter : String := "schemalens=info"
  deriving DecidableEq, Repr

/-- Connections under names, and the log. -/
structure Settings where
  connections : SortedMap ConnectionEntry := SortedMap.empty
  log : LogSettings := {}
  deriving Repr

namespace Settings

/-- The names of all variables that the data sources refer to. -/
def references (settings : Settings) : List String :=
  settings.connections.entries.flatMap fun (_, entry) =>
    (segments entry.dataSource.toList).filterMap Segment.reference?

/-- The name of the connection that is preferred where none is asked for. -/
def preferred : String := "default"

def connection (settings : Settings) (name : String) :
    Except SettingsError ConnectionEntry :=
  match settings.connections.get? name with
  | some entry => .ok entry
  | none => .error (.connectionNotFound name)

/-- The connection to use where none is asked for: the preferred one, or else
the one with the smallest name. -/
def defaultConnection? (settings : Settings) :
    Option (String × ConnectionEntry) :=
  match settings.connections.get? preferred with
  | some entry => some (preferred, entry)
  | none => settings.connections.first?

end Settings

end SchemaScope

import SchemaScope.Dialect
import SchemaScope.Environment
import SchemaScope.SchemaError
import SchemaScope.Text.Blank

/-!
Connections: a dialect and the name of a data source.
-/

namespace SchemaScope

/-- The cause of a connection that cannot be described. -/
inductive ConnectionError where
  /-- A variable that has to be set is not. -/
  | missingVariable (name : String)
  /-- The text names no dialect; it is held in lower case. -/
  | unsupportedDriver (name : String)
  /-- The parts do not fit together. -/
  | invalid (reason : String)
  deriving DecidableEq, Repr

namespace ConnectionError

def message : ConnectionError → String
  | missingVariable name => "Missing required environment variable: " ++ name
  | unsupportedDriver name =>
    "Unsupported driver: " ++ name
      ++ ". Supported: sqlite, mysql, postgres, mssql"
  | invalid reason => "Invalid configuration: " ++ reason

def toSchemaError : ConnectionError → SchemaError
  | unsupportedDriver name => .unsupportedDriver name
  | e => .invalidConfiguration e.message

end ConnectionError

/-- The dialect that a text names, or the reason why it names none. -/
def Dialect.ofText (text : String) : Except ConnectionError Dialect :=
  match Dialect.ofName? text with
  | some d => .ok d
  | none => .error (.unsupportedDriver (Text.lowerCase text))

/-- What is needed to open a database. -/
structure Connection where
  dialect : Dialect
  source : String
  deriving DecidableEq, Repr

namespace Connection

/-- The data source that stands for a database in memory. -/
def inMemory : String := ":memory:"

/-- A server database needs a data source that is not blank; a file database is
in memory without one. -/
def validate (c : Connection) : Except ConnectionError Unit :=
  if c.dialect ≠ .sqlite && Text.isBlankText c.source then
    .error (.invalid (c.dialect.name ++ " connection needs a data source name"))
  else .ok ()

def dialectVariable : String := "SCHEMALENS_DB_DRIVER"

def sourceVariable : String := "SCHEMALENS_DB_SOURCE"

/-- A variable that has to be set. -/
def require (env : Environment) (name : String) :
    Except ConnectionError String :=
  match env.get? name with
  | some value => .ok value
  | none => .error (.missingVariable name)

/-- The connection that the environment describes. A file database without a
data source is in memory. -/
def ofEnvironment (env : Environment) : Except ConnectionError Connection := do
  let dialect ← Dialect.ofText (← require env dialectVariable)
  let source ←
    if dialect = .sqlite then pure ((env.get? sourceVariable).getD inMemory)
    else require env sourceVariable
  let connection : Connection := ⟨dialect, source⟩
  connection.validate
  return connection

end Connection

end SchemaScope

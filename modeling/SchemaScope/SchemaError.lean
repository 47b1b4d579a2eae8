/-!
Why a schema could not be read.
-/

namespace SchemaScope

/-- The cause of a failed question about a schema. -/
inductive SchemaError where
  /-- The repository does not offer the operation. -/
  | notImplemented (operation : String)
  /-- The dialect has no repository. -/
  | unsupportedDriver (name : String)
  /-- The data source could not be opened. -/
  | connectionFailed (reason : String)
  /-- The database engine refused a statement. -/
  | engine (reason : String)
  /-- A question failed for another reason. -/
  | query (reason : String)
  /-- The worker takes no repository any more. -/
  | workerStopped
  /-- The connection is not described well enough to be opened. -/
  | invalidConfiguration (reason : String)
  deriving DecidableEq, Repr

/-- The result of a question about a schema. -/
abbrev Outcome (α : Type) := Except SchemaError α

namespace SchemaError

def message : SchemaError → String
  | notImplemented operation => "not implemented: " ++ operation
  | unsupportedDriver name => "unsupported driver: " ++ name
  | connectionFailed reason => "database connection failed: " ++ reason
  | engine reason => "sqlite error: " ++ reason
  | query reason => "query failed: " ++ reason
  | workerStopped => "refresh worker is stopped"
  | invalidConfiguration reason => "invalid configuration: " ++ reason

/-- The operation is not offered, as opposed to having failed. -/
def isNotImplemented : SchemaError → Bool
  | notImplemented _ => true
  | _ => false

end SchemaError

end SchemaScope

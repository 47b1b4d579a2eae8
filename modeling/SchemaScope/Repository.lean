import SchemaScope.Dialect
import SchemaScope.ForeignKey
import SchemaScope.QueryResult
import SchemaScope.SchemaError

/-!
Repositories: what answers questions about the schema of one database. A
repository may lack the answer to any question; it then says that the operation
is not offered.
-/

namespace SchemaScope

inductive Call where
  /-- The database the connection uses. -/
  | currentDatabase
  /-- The databases that can be seen. -/
  | databases
  /-- The schema of bare names. -/
  | currentSchema
  /-- The schemas that can be seen. -/
  | schemas
  /-- The tables and views of every schema, in the order of their
  declaration. -/
  | schemaTables
  /-- The columns of all tables. -/
  | databaseColumns
  /-- The columns of the tables of one schema. -/
  | schemaColumns (schema : String)
  /-- The foreign keys of the tables of one schema. -/
  | schemaForeignKeys (schema : String)
  /-- Rows of a statement. -/
  | query (sql : String)
  /-- A statement that returns no rows. -/
  | exec (sql : String)
  deriving DecidableEq, Repr

namespace Call

abbrev Answer : Call → Type
  | currentDatabase => String
  | databases => List String
  | currentSchema => String
  | schemas => List String
  | schemaTables => List (String × List String)
  | databaseColumns => List Column
  | schemaColumns _ => List Column
  | schemaForeignKeys _ => List Relation
  | query _ => QueryResult
  | exec _ => ExecResult

def name : Call → String
  | currentDatabase => "current_database"
  | databases => "databases"
  | currentSchema => "current_schema"
  | schemas => "schemas"
  | schemaTables => "schema_tables"
  | databaseColumns => "describe_database_columns"
  | schemaColumns _ => "describe_columns_by_schema"
  | schemaForeignKeys _ => "describe_foreign_keys_by_schema"
  | query _ => "query"
  | exec _ => "exec"

/-- A question with the schema it is about. -/
def display (c : Call) : String :=
  match c with
  | schemaColumns schema | schemaForeignKeys schema =>
    c.name ++ "(" ++ schema ++ ")"
  | _ => c.name

/-- The answer of a repository that says no more about a question than it must.
Some questions every repository answers, if only by nothing. -/
def unanswered : (c : Call) → Outcome c.Answer
  | currentSchema => .ok ""
  | schemas => .ok []
  | schemaTables => .ok []
  | schemaColumns _ => .ok []
  | currentDatabase => .error (.notImplemented "current_database")
  | databases => .error (.notImplemented "databases")
  | databaseColumns => .error (.notImplemented "describe_database_columns")
  | schemaForeignKeys _ =>
    .error (.notImplemented "describe_foreign_keys_by_schema")
  | query _ => .error (.notImplemented "query")
  | exec _ => .error (.notImplemented "exec")

end Call

/-- What answers questions about one database. -/
structure Repository where
  dialect : Dialect
  answer : (c : Call) → Outcome c.Answer

end SchemaScope

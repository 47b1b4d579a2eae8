import SchemaScope.Text.LowerCase

/-!
The SQL dialects a connection can name. A dialect has one name of its own and is
recognised by several, in any case.
-/

namespace SchemaScope

inductive Dialect where
  | sqlite
  | mysql
  | postgres
  | mssql
  deriving DecidableEq, Repr

namespace Dialect

def name : Dialect → String
  | sqlite => "sqlite"
  | mysql => "mysql"
  | postgres => "postgres"
  | mssql => "mssql"

/-- The names a dialect is recognised by. -/
def aliases : List (String × Dialect) :=
  [("sqlite", sqlite), ("sqlite3", sqlite),
   ("mysql", mysql), ("mariadb", mysql),
   ("postgres", postgres), ("postgresql", postgres), ("pg", postgres),
   ("mssql", mssql), ("sqlserver", mssql), ("sql_server", mssql)]

/-- The dialect that a text names, whatever its case. -/
def ofName? (text : String) : Option Dialect :=
  aliases.lookup (Text.lowerCase text)

theorem ofName?_name (d : Dialect) : ofName? d.name = some d := by
  cases d <;> decide +kernel

end Dialect

end SchemaScope

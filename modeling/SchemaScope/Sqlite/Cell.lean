import SchemaScope.Decimal.Shortest
import SchemaScope.QueryResult
import SchemaScope.SchemaError
import SchemaScope.Text.Utf8

/-!
Values of an SQLite database, and how they are shown as text.
-/

namespace SchemaScope.Sqlite

/-- A value of a row. Text is held as the bytes the database stores, which need
not be valid UTF-8. -/
inductive Cell where
  | null
  | integer (value : Int)
  | real (value : Decimal.Binary64)
  | text (bytes : List UInt8)
  | blob (bytes : List UInt8)

/-- A value as text. Of a blob only the size is shown. -/
def Cell.render : Cell → Option String
  | null => none
  | integer value => some (toString value)
  | real value => some value.text
  | text bytes => some (Text.decodeUtf8Loosely bytes)
  | blob bytes => some ("<" ++ toString bytes.length ++ " bytes>")

structure Rows where
  columns : List String
  rows : List (List Cell)

def Rows.render (r : Rows) : QueryResult :=
  ⟨r.columns, r.rows.map fun row => row.map Cell.render⟩

end SchemaScope.Sqlite

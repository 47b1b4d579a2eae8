import SchemaScope.Decimal.Shortest
import SchemaScope.Text.Quoted

/-!
JSON values. Whole numbers between -2^63 and 2^64 are exact; every other number
is binary floating point. An object is a list of fields as written; where a name
occurs twice, the last one counts.
-/

namespace SchemaScope

inductive Json where
  | null
  | bool (value : Bool)
  | integer (value : Int)
  | real (value : Decimal.Binary64)
  | string (value : String)
  | array (items : List Json)
  | object (fields : List (String × Json))

namespace Json

/-- The value of a field, the last one of that name. -/
def lookup (fields : List (String × Json)) (name : String) : Option Json :=
  (fields.reverse.find? (·.1 == name)).map (·.2)

def field? (j : Json) (name : String) : Option Json :=
  match j with
  | .object fields => lookup fields name
  | _ => none

/-- A value or `null`. -/
def ofOption {α : Type} (encode : α → Json) : Option α → Json
  | some a => encode a
  | none => .null

def strings (items : List String) : Json :=
  .array (items.map .string)

/-- A whole number that is not negative. -/
def natural (n : Nat) : Json :=
  .integer n

/-- What a value is, as messages about a value of the wrong kind say it. -/
def describe : Json → String
  | .null => "null"
  | .bool value => "boolean `" ++ (if value then "true" else "false") ++ "`"
  | .integer value => "integer `" ++ toString value ++ "`"
  | .real value => "floating point `" ++ value.literal ++ "`"
  | .string value => "string " ++ Text.quoted value
  | .array _ => "sequence"
  | .object _ => "map"

end Json

end SchemaScope

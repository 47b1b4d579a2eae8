import SchemaScope.Decimal.Binary64

/-!
TOML values, as they stand once a document has been put together.
-/

namespace SchemaScope.Toml

/-- A TOML value. A spelling of a number may pass and yet stand for none, if not
all of its digits belong to its base, or if the number lies beyond 128 bits or
beyond the binary numbers. Of a date only the spelling is kept. -/
inductive Value where
  | string (text : String)
  | integer (value : Option Int)
  | float (value : Option Decimal.Binary64)
  | boolean (value : Bool)
  | date (spelling : String)
  | array (items : List Value)
  | table (fields : List (String × Value))

namespace Value

def text? : Value → Option String
  | .string text => some text
  | _ => none

mutual

/-- Every number in a value stands for one. -/
def isReadable : Value → Bool
  | .integer value => value.isSome
  | .float value => value.isSome
  | .array items => itemsReadable items
  | .table fields => fieldsReadable fields
  | _ => true

def itemsReadable : List Value → Bool
  | [] => true
  | item :: rest => item.isReadable && itemsReadable rest

def fieldsReadable : List (String × Value) → Bool
  | [] => true
  | (_, value) :: rest => value.isReadable && fieldsReadable rest

end

end Value

end SchemaScope.Toml

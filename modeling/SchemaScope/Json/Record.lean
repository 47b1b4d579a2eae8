import SchemaScope.Json.Value

/-!
Values read from JSON. A record is written as an object, or as an array of its
fields in order. Fields that are not known are passed over. Of several faults in
an object the one in the field with the smallest name is reported, and a missing
field only if no field is bad; in an array the first fault counts.
-/

namespace SchemaScope.Json

/-- A value read from JSON, or what is wrong with it. -/
abbrev Decoded (α : Type) := Except String α

def mismatch (j : Json) (expected : String) : String :=
  "invalid type: " ++ j.describe ++ ", expected " ++ expected

def toText : Json → Decoded String
  | .string s => .ok s
  | j => .error (mismatch j "a string")

def toList {α : Type} (decode : Json → Decoded α) : Json → Decoded (List α)
  | .array items => items.mapM decode
  | j => .error (mismatch j "a sequence")

/-- A value or `null`. -/
def toOption {α : Type} (decode : Json → Decoded α) : Json → Decoded (Option α)
  | .null => .ok none
  | j => (decode j).map some

/-- A whole number between two others, the second of which is excluded. -/
def toInteger (low high : Int) (expected : String) : Json → Decoded Int
  | .integer n =>
    if low ≤ n ∧ n < high then .ok n
    else
      .error
        ("invalid value: " ++ (Json.integer n).describe ++ ", expected "
          ++ expected)
  | j => .error (mismatch j expected)

/-- A whole number below 2^64. -/
def toWord (j : Json) : Decoded UInt64 :=
  (toInteger 0 UInt64.size "u64" j).map fun n => UInt64.ofNat n.toNat

/-- A whole number below 2^32. -/
def toWord32 (j : Json) : Decoded Nat :=
  (toInteger 0 UInt32.size "u32" j).map Int.toNat

/-- A whole number from -2^31 on and below 2^31. -/
def toInteger32 : Json → Decoded Int :=
  toInteger (-Nat.pow 2 31) (Nat.pow 2 31) "i32"

/-- What is wrong with a field. -/
inductive FieldFault where
  | bad (name message : String)
  | missing (name : String)

/-- A value put together from fields, or all that is wrong with them. -/
inductive Taken (α : Type) where
  | value (a : α)
  | faults (first : FieldFault) (more : List FieldFault)

namespace Taken

variable {α β : Type}

def map (f : α → β) : Taken α → Taken β
  | value a => value (f a)
  | faults first more => faults first more

def apply : Taken (α → β) → Taken α → Taken β
  | value f, a => a.map f
  | faults first more, value _ => faults first more
  | faults first more, faults next others =>
    faults first (more ++ next :: others)

instance : Functor Taken := ⟨map, fun a => map (Function.const _ a)⟩

instance : Seq Taken := ⟨fun f a => f.apply (a ())⟩

end Taken

/-- Where the fields of a record come from. -/
inductive FieldSource where
  | named (fields : List (String × Json))
  | listed (items : List Json)

namespace FieldSource

variable {α : Type}

def get? (source : FieldSource) (place : Nat) (name : String) : Option Json :=
  match source with
  | named fields => lookup fields name
  | listed items => items[place]?

/-- A field that is there. -/
def takeFrom (name : String) (decode : Json → Decoded α) (j : Json) : Taken α :=
  match decode j with
  | .ok a => .value a
  | .error message => .faults (.bad name message) []

/-- A field that has to be there. -/
def take (source : FieldSource) (place : Nat) (name : String)
    (decode : Json → Decoded α) : Taken α :=
  match source.get? place name with
  | some j => takeFrom name decode j
  | none => .faults (.missing name) []

/-- A field that has a value of its own where it is missing. -/
def takeOr (source : FieldSource) (otherwise : α) (place : Nat) (name : String)
    (decode : Json → Decoded α) : Taken α :=
  match source.get? place name with
  | some j => takeFrom name decode j
  | none => .value otherwise

/-- A field that an object may leave out. -/
def takeOption (source : FieldSource) (place : Nat) (name : String)
    (decode : Json → Decoded α) : Taken (Option α) :=
  match source with
  | named _ => source.takeOr none place name (toOption decode)
  | listed _ => source.take place name (toOption decode)

end FieldSource

/-- Of two bad fields the one with the smaller name. -/
def smallerName : FieldFault → FieldFault → FieldFault
  | .bad n m, .bad name message =>
    if name < n then .bad name message else .bad n m
  | .missing _, .bad name message => .bad name message
  | fault, .missing _ => fault

/-- What is reported of the faults of an object. -/
def objectFault (first : FieldFault) (more : List FieldFault) : String :=
  match more.foldl smallerName first with
  | .bad _ message => message
  | .missing name => "missing field `" ++ name ++ "`"

/-- The size of a record, as messages say it. -/
def elements (size : Nat) : String :=
  toString size ++ (if size = 1 then " element" else " elements")

/-- What is reported of the first fault of an array. -/
def arrayFault (record : String) (size length : Nat) : FieldFault → String
  | .bad _ message => message
  | .missing _ =>
    "invalid length " ++ toString length ++ ", expected struct " ++ record
      ++ " with " ++ elements size

/-- The value that is taken from the fields of an object. -/
def ofFields {α : Type} (fields : List (String × Json))
    (take : FieldSource → Taken α) : Decoded α :=
  match take (.named fields) with
  | .value a => .ok a
  | .faults first more => .error (objectFault first more)

/-- Read a record of a number of fields. Of an array with more items than that
it is said what was expected. -/
def toRecordOf {α : Type} (expected record : String) (size : Nat)
    (take : FieldSource → Taken α) : Json → Decoded α
  | .object fields => ofFields fields take
  | .array items =>
    match take (.listed items) with
    | .value a =>
      if size < items.length then
        .error
          ("invalid length " ++ toString items.length ++ ", expected "
            ++ expected)
      else .ok a
    | .faults first _ => .error (arrayFault record size items.length first)
  | j => .error (mismatch j ("struct " ++ record))

/-- Read a record of a number of fields. -/
def toRecord {α : Type} :
    (record : String) → (size : Nat) → (take : FieldSource → Taken α) →
      Json → Decoded α :=
  toRecordOf "fewer elements in array"

/-- Read a record that belongs to a group of fields within a larger one. -/
def toGrouped {α : Type} (record : String) (size : Nat) :
    (take : FieldSource → Taken α) → Json → Decoded α :=
  toRecordOf (elements size ++ " in sequence") record size

/-- Read an object whose names are free. -/
def toMap {α : Type} (decode : Json → Decoded α) :
    Json → Decoded (List (String × α))
  | .object fields => fields.mapM fun field => (decode field.2).map (field.1, ·)
  | j => .error (mismatch j "a map")

end SchemaScope.Json

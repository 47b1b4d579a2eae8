import SchemaScope.Settings
import SchemaScope.Toml.Document

/-!
Settings as a TOML document. Every part may be missing, and fields that are not
known are passed over, though their values have to be readable. A part may also
be written as an array of its fields in order; what follows them is not looked
at.
-/

namespace SchemaScope

open Toml (Value)

def Toml.field? (fields : List (String × Value)) (name : String) :
    Option Value :=
  fields.lookup name

namespace ConnectionEntry

/-- A connection from a table or an array. -/
def ofToml? : Value → Option ConnectionEntry
  | .table fields => do
    if !Value.fieldsReadable fields then none
    let driver ← (← Toml.field? fields "driver").text?
    let dataSource ← (← Toml.field? fields "data_source_name").text?
    return ⟨driver, dataSource⟩
  | .array (.string driver :: .string dataSource :: _) =>
    some ⟨driver, dataSource⟩
  | _ => none

end ConnectionEntry

namespace LogSettings

/-- How to log, from a table or an array. A date has none of the fields that are
known. -/
def ofToml? : Value → Option LogSettings
  | .table fields =>
    if !Value.fieldsReadable fields then none
    else
      match Toml.field? fields "log_filter" with
      | none => some {}
      | some value => value.text?.map fun filter => { filter }
  | .array [] => some {}
  | .array (.string filter :: _) => some { filter }
  | .date _ => some {}
  | _ => none

end LogSettings

namespace Settings

/-- Named connections from a table. -/
def connectionsOfToml? : Value → Option (SortedMap ConnectionEntry)
  | .table fields =>
    (fields.mapM fun field =>
      (ConnectionEntry.ofToml? field.2).map (field.1, ·)).map
        SortedMap.ofList
  | _ => none

def isUnknown (name : String) : Bool :=
  name ≠ "connections" && name ≠ "lsp"

def ofFields? (fields : List (String × Value)) : Option Settings := do
  if !Value.fieldsReadable (fields.filter (isUnknown ·.1)) then none
  let connections ←
    (Toml.field? fields "connections").elim (some SortedMap.empty)
      connectionsOfToml?
  let log ← (Toml.field? fields "lsp").elim (some {}) LogSettings.ofToml?
  return { connections, log }

def ofToml (text : String) : Except SettingsError Settings :=
  match (Toml.parse? text).bind ofFields? with
  | some settings => .ok settings
  | none => .error .malformed

end Settings

end SchemaScope

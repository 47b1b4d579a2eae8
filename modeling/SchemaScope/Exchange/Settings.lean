import SchemaScope.Json.Record
import SchemaScope.Settings

/-!
The JSON forms of connections and settings, and the options an editor sends.
-/

namespace SchemaScope

open Json (Decoded toText toRecord)

namespace Dialect

def toJson (d : Dialect) : Json := .string d.name

/-- A dialect from JSON, under any of its names. -/
def ofJson (j : Json) : Decoded Dialect := do
  let text ← toText j
  (ofText text).mapError ConnectionError.message

end Dialect

namespace Connection

def toJson (c : Connection) : Json :=
  .object [("driver", c.dialect.toJson), ("dataSourceName", .string c.source)]

def ofJson : Json → Decoded Connection :=
  toRecord "ConnectionConfig" 2 fun source =>
    mk <$> source.take 0 "driver" Dialect.ofJson
      <*> source.take 1 "dataSourceName" toText

/-- The connection in the options of an editor, which may be missing. -/
def optionsOfJson : Json → Decoded (Option Connection) :=
  toRecord "InitializeOptions" 1 fun source =>
    source.takeOr none 0 "connectionConfig" (Json.toOption ofJson)

end Connection

namespace ConnectionEntry

def toJson (entry : ConnectionEntry) : Json :=
  .object [("driver", .string entry.driver),
    ("data_source_name", .string entry.dataSource)]

def ofJson : Json → Decoded ConnectionEntry :=
  toRecord "ConnectionSettings" 2 fun source =>
    mk <$> source.take 0 "driver" toText
      <*> source.take 1 "data_source_name" toText

end ConnectionEntry

namespace LogSettings

def toJson (log : LogSettings) : Json :=
  .object [("log_filter", .string log.filter)]

def ofJson : Json → Decoded LogSettings :=
  toRecord "LspSettings" 1 fun source =>
    mk <$> source.takeOr ({} : LogSettings).filter 0 "log_filter" toText

end LogSettings

namespace Settings

def toJson (settings : Settings) : Json :=
  .object [
    ("connections", .object (settings.connections.entries.map
      fun (name, entry) => (name, entry.toJson))),
    ("lsp", settings.log.toJson)]

/-- Named connections from JSON. They are read in ascending order of their
names, and of several with one name the last one counts. -/
def connectionsOfJson (j : Json) : Decoded (SortedMap ConnectionEntry) :=
  let sorted := match j with
    | .object fields => .object (SortedMap.ofList fields).entries
    | j => j
  (Json.toMap ConnectionEntry.ofJson sorted).map SortedMap.ofList

def ofJson : Json → Decoded Settings :=
  toRecord "Settings" 2 fun source =>
    mk <$> source.takeOr SortedMap.empty 0 "connections" connectionsOfJson
      <*> source.takeOr {} 1 "lsp" LogSettings.ofJson

end Settings

end SchemaScope

import SchemaScope.Exchange.Schema
import SchemaScope.Exchange.Settings
import SchemaScope.Proofs.Json.Exchanged
import SchemaScope.Proofs.SortedMap

/-!
What is exchanged as JSON is read as it was written: columns, relations,
results, connections and settings.
-/

namespace SchemaScope

open Json (Exact Exchanged ReadsBack exact_list exact_optionalText exact_word
  readsBack_optionalText readsBack_text readsBack_word toText)

theorem ColumnId.exchanged :
    Exchanged ["schema", "table", "name"] [] toJson ofJson := by
  apply Exchanged.ofRecord
  · simp
  · simp
  · rfl
  · simp [Exact.string]
  · intro id source h
    have hschema : source.take 0 "schema" toText = .value id.schema :=
      h.take rfl (by simp) (readsBack_text _)
    have htable : source.take 1 "table" toText = .value id.table :=
      h.take rfl (by simp) (readsBack_text _)
    have hname : source.take 2 "name" toText = .value id.name :=
      h.take rfl (by simp) (readsBack_text _)
    rw [hschema, htable, hname]
    rfl

theorem default_of_null {o : Option String}
    (h : ("default", Json.ofOption .string o) ∈ [("default", Json.null)]) :
    none = o := by
  cases o with
  | none => rfl
  | some text => simp [Json.ofOption] at h

theorem Column.exchanged :
    Exchanged ["identity", "data_type", "nullable", "key", "default", "extra"]
      [("default", .null)] toJson ofJson := by
  apply Exchanged.ofRecord
  · simp
  · simp
  · rfl
  · simp [Exact.string, ColumnId.exchanged.exact, exact_optionalText]
  · intro c source h
    have hid : source.take 0 "identity" ColumnId.ofJson = .value c.id :=
      h.take rfl (by simp) (ColumnId.exchanged.reads_back _)
    have htype : source.take 1 "data_type" toText = .value c.dataType :=
      h.take rfl (by simp) (readsBack_text _)
    have hnullable : source.take 2 "nullable" toText = .value c.nullable :=
      h.take rfl (by simp) (readsBack_text _)
    have hkey : source.take 3 "key" toText = .value c.key :=
      h.take rfl (by simp) (readsBack_text _)
    have hdefault :
        source.takeOption 4 "default" toText = .value c.defaultValue :=
      h.takeOption rfl default_of_null (readsBack_optionalText _)
    have hextra : source.take 5 "extra" toText = .value c.extra :=
      h.take rfl (by simp) (readsBack_text _)
    rw [hid, htype, hnullable, hkey, hdefault, hextra]
    rfl

theorem ColumnPair.exchanged :
    Exchanged ["local", "referenced"] [] toJson ofJson := by
  apply Exchanged.ofRecord
  · simp
  · simp
  · rfl
  · simp [ColumnId.exchanged.exact]
  · intro pair source h
    have hlocal : source.take 0 "local" ColumnId.ofJson = .value pair.column :=
      h.take rfl (by simp) (ColumnId.exchanged.reads_back _)
    have hreferenced :
        source.take 1 "referenced" ColumnId.ofJson = .value pair.referenced :=
      h.take rfl (by simp) (ColumnId.exchanged.reads_back _)
    rw [hlocal, hreferenced]
    rfl

theorem Relation.exchanged :
    Exchanged ["pairs"] [] toJson ofJson := by
  apply Exchanged.ofRecord
  · simp
  · simp
  · rfl
  · simp [exact_list ColumnPair.exchanged.exact]
  · intro r source h
    have hpairs :
        source.take 0 "pairs" (Json.toList ColumnPair.ofJson) =
          .value r.pairs :=
      h.take rfl (by simp) (ColumnPair.exchanged.reads_back.list _)
    rw [hpairs]
    rfl

theorem QueryResult.exchanged :
    Exchanged ["columns", "rows"] [] toJson ofJson := by
  apply Exchanged.ofRecord
  · simp
  · simp
  · rfl
  · simp [Json.strings, exact_list Exact.string,
      exact_list (exact_list exact_optionalText)]
  · intro r source h
    have hcolumns :
        source.take 0 "columns" (Json.toList toText) = .value r.columns :=
      h.take rfl (by simp) (readsBack_text.list _)
    have hrows :
        source.take 1 "rows" (Json.toList (Json.toList (Json.toOption toText)))
          = .value r.rows :=
      h.take rfl (by simp) (readsBack_optionalText.list.list _)
    rw [hcolumns, hrows]
    rfl

theorem ExecResult.exchanged :
    Exchanged ["rows_affected"] [] toJson ofJson := by
  apply Exchanged.ofRecord
  · simp
  · simp
  · rfl
  · simp [exact_word]
  · intro r source h
    have haffected :
        source.take 0 "rows_affected" Json.toWord = .value r.rowsAffected :=
      h.take rfl (by simp) (readsBack_word _)
    rw [haffected]
    rfl

theorem Dialect.readsBack : ReadsBack toJson ofJson := by
  intro d
  change (ofText d.name).mapError ConnectionError.message = .ok d
  rw [ofText, ofName?_name]
  rfl

theorem Connection.exchanged :
    Exchanged ["driver", "dataSourceName"] [] toJson ofJson := by
  apply Exchanged.ofRecord
  · simp
  · simp
  · rfl
  · simp [Dialect.toJson, Exact.string]
  · intro c source h
    have hdialect : source.take 0 "driver" Dialect.ofJson = .value c.dialect :=
      h.take rfl (by simp) (Dialect.readsBack _)
    have hsource : source.take 1 "dataSourceName" toText = .value c.source :=
      h.take rfl (by simp) (readsBack_text _)
    rw [hdialect, hsource]
    rfl

theorem ConnectionEntry.exchanged :
    Exchanged ["driver", "data_source_name"] [] toJson ofJson := by
  apply Exchanged.ofRecord
  · simp
  · simp
  · rfl
  · simp [Exact.string]
  · intro entry source h
    have hdriver : source.take 0 "driver" toText = .value entry.driver :=
      h.take rfl (by simp) (readsBack_text _)
    have hsource :
        source.take 1 "data_source_name" toText = .value entry.dataSource :=
      h.take rfl (by simp) (readsBack_text _)
    rw [hdriver, hsource]
    rfl

theorem LogSettings.exchanged :
    Exchanged ["log_filter"] [("log_filter", .string "schemalens=info")]
      toJson ofJson := by
  apply Exchanged.ofRecord
  · simp
  · simp
  · rfl
  · simp [Exact.string]
  · intro log source h
    have hfilter :
        source.takeOr ({} : LogSettings).filter 0 "log_filter" toText =
          .value log.filter :=
      h.takeOr rfl (by simp [eq_comm]) (readsBack_text _)
    rw [hfilter]
    rfl

namespace Settings

/-- Connections as the fields of an object, in ascending order of their
names. -/
def connectionFields (connections : SortedMap ConnectionEntry) :
    List (String × Json) :=
  connections.entries.map fun (name, entry) => (name, entry.toJson)

theorem connectionFields_sorted (connections : SortedMap ConnectionEntry) :
    (connectionFields connections).Pairwise fun a b => a.1 < b.1 :=
  List.pairwise_map.2 connections.sorted

/-- Connections are read in whatever order they are written. -/
theorem connectionsOfJson_of_perm {connections : SortedMap ConnectionEntry}
    {fields : List (String × Json)}
    (h : fields.Perm (connectionFields connections)) :
    connectionsOfJson (.object fields) = .ok connections := by
  have hread : Json.toMap ConnectionEntry.ofJson
      (.object (connectionFields connections)) = .ok connections.entries :=
    ConnectionEntry.exchanged.reads_back.object connections.entries
  rw [connectionsOfJson, SortedMap.entries_ofList_of_perm
    (connectionFields_sorted connections) h, hread, Except.map,
    SortedMap.ofList_eq_of_perm (.refl _)]

theorem exact_connections {connections : SortedMap ConnectionEntry}
    {fields : List (String × Json)}
    (h : fields.Perm (connectionFields connections)) :
    (Json.object fields).Exact := by
  apply Exact.object
  intro field hfield
  obtain ⟨entry, -, rfl⟩ := List.mem_map.1 (h.mem_iff.1 hfield)
  exact ConnectionEntry.exchanged.exact entry.2

/-- The fields that settings may leave out, with their values. -/
def defaults : List (String × Json) :=
  [("connections", .object []), ("lsp", ({} : LogSettings).toJson)]

theorem empty_of_default {connections : SortedMap ConnectionEntry}
    {fields : List (String × Json)}
    (hfields : fields.Perm (connectionFields connections))
    (h : ("connections", Json.object fields) ∈ defaults) :
    SortedMap.empty = connections := by
  simp only [defaults, List.mem_cons, Prod.mk.injEq, Json.object.injEq,
    String.reduceEq, false_and, List.not_mem_nil, or_false, true_and] at h
  subst h
  have hentries : connections.entries = [] :=
    List.map_eq_nil_iff.1 hfields.nil_eq.symm
  exact SortedMap.ext_entries hentries.symm

theorem log_of_default {log : LogSettings}
    (h : ("lsp", log.toJson) ∈ defaults) : {} = log := by
  simp only [defaults, List.mem_cons, Prod.mk.injEq, String.reduceEq,
    false_and, false_or, List.not_mem_nil, or_false, true_and] at h
  exact (LogSettings.exchanged.reads_back.injective h).symm

section Order

variable {settings : Settings} {fields : List (String × Json)}
  (hfields : fields.Perm (connectionFields settings.connections))

include hfields

theorem take_of_gives {source : Json.FieldSource}
    (h : source.Gives defaults
      [("connections", .object fields), ("lsp", settings.log.toJson)]) :
    mk <$> source.takeOr SortedMap.empty 0 "connections" connectionsOfJson
        <*> source.takeOr {} 1 "lsp" LogSettings.ofJson =
      .value settings := by
  have hconnections :
      source.takeOr SortedMap.empty 0 "connections" connectionsOfJson =
        .value settings.connections :=
    h.takeOr rfl (empty_of_default hfields)
      (connectionsOfJson_of_perm hfields)
  have hlog :
      source.takeOr {} 1 "lsp" LogSettings.ofJson = .value settings.log :=
    h.takeOr rfl log_of_default (LogSettings.exchanged.reads_back _)
  rw [hconnections, hlog]
  rfl

theorem exact_of_perm :
    ∀ field ∈ [("connections", .object fields), ("lsp", settings.log.toJson)],
      field.2.Exact := by
  intro field hfield
  simp only [List.mem_cons, List.not_mem_nil, or_false] at hfield
  rcases hfield with rfl | rfl
  · exact exact_connections hfields
  · exact LogSettings.exchanged.exact settings.log

end Order

theorem exchanged :
    Exchanged ["connections", "lsp"] defaults toJson ofJson := by
  apply Exchanged.ofRecord
  · simp
  · simp
  · rfl
  · exact fun settings => exact_of_perm (.refl _)
  · exact fun settings source => take_of_gives (.refl _)

/-- Settings as JSON, with the connections in any order. -/
def IsWritten (settings : Settings) (j : Json) : Prop :=
  ∃ fields, fields.Perm (connectionFields settings.connections) ∧
    j = .object [("connections", .object fields),
      ("lsp", settings.log.toJson)]

theorem IsWritten.exact {settings : Settings} {j : Json}
    (h : settings.IsWritten j) : j.Exact := by
  obtain ⟨fields, hfields, rfl⟩ := h
  exact .object (exact_of_perm hfields)

theorem IsWritten.reads_back {settings : Settings} {j : Json}
    (h : settings.IsWritten j) : ofJson j = .ok settings := by
  obtain ⟨fields, hfields, rfl⟩ := h
  apply Json.toRecord_eq_ok_iff.2
  refine .inl ⟨_, rfl, take_of_gives hfields ?_⟩
  apply Json.FieldSource.named_gives
  intro field hfield
  exact .inl (Json.lookup_of_mem (by simp) hfield)

end Settings

/-- Every value that is exchanged as JSON is read as it was written, from the
JSON value and from its text. Whatever else is read as such a value has a
normal form, which is read as the same value. Settings hold their connections
without an order, so that they may be written in any. -/
theorem values_exchanged :
    Exchanged ["schema", "table", "name"] [] ColumnId.toJson ColumnId.ofJson ∧
      Exchanged ["identity", "data_type", "nullable", "key", "default", "extra"]
        [("default", .null)] Column.toJson Column.ofJson ∧
      Exchanged ["local", "referenced"] [] ColumnPair.toJson ColumnPair.ofJson ∧
      Exchanged ["pairs"] [] Relation.toJson Relation.ofJson ∧
      Exchanged ["columns", "rows"] [] QueryResult.toJson QueryResult.ofJson ∧
      Exchanged ["rows_affected"] [] ExecResult.toJson ExecResult.ofJson ∧
      Exchanged ["driver", "dataSourceName"] [] Connection.toJson
        Connection.ofJson ∧
      Exchanged ["driver", "data_source_name"] [] ConnectionEntry.toJson
        ConnectionEntry.ofJson ∧
      Exchanged ["log_filter"] [("log_filter", .string "schemalens=info")]
        LogSettings.toJson LogSettings.ofJson ∧
      Exchanged ["connections", "lsp"]
        [("connections", .object []),
          ("lsp", .object [("log_filter", .string "schemalens=info")])]
        Settings.toJson Settings.ofJson ∧
      ∀ (settings : Settings) (j : Json), settings.IsWritten j →
        Settings.ofJson j = .ok settings ∧
          (Json.parse? j.render).map Settings.ofJson = some (.ok settings) := by
  refine ⟨ColumnId.exchanged, Column.exchanged, ColumnPair.exchanged,
    Relation.exchanged, QueryResult.exchanged, ExecResult.exchanged,
    Connection.exchanged, ConnectionEntry.exchanged, LogSettings.exchanged,
    Settings.exchanged, ?_⟩
  intro settings j h
  rw [Json.parse?_render h.exact, Option.map_some, h.reads_back]
  exact ⟨rfl, rfl⟩

namespace ExchangeWitness

/-- A connection under another name of its dialect, with a field of no
meaning. -/
def connectionForm : Json :=
  .object [("note", .null), ("driver", .string "PostgreSQL"),
    ("dataSourceName", .string "host=db")]

theorem connectionForm_read :
    Connection.ofJson connectionForm = .ok ⟨.postgres, "host=db"⟩ := by
  decide +kernel

/-- A column without a default value, whose address is an array. -/
def columnForm : Json :=
  .object [("data_type", .string "INTEGER"), ("nullable", .string "NO"),
    ("key", .string "YES"), ("extra", .string ""),
    ("identity", .array [.string "main", .string "users", .string "id"])]

/-- The column that is read from that form. -/
def column : Column where
  id := ⟨"main", "users", "id"⟩
  dataType := "INTEGER"
  nullable := "NO"
  key := "YES"

theorem columnForm_read : Column.ofJson columnForm = .ok column := by
  decide +kernel

/-- The connection to an archive. -/
def archive : ConnectionEntry := ⟨"SQLite3", "archive.db"⟩

/-- The connection to a shop. -/
def shop : ConnectionEntry := ⟨"pg", "$\x7bSHOP\x7d"⟩

/-- Settings with two connections. -/
def settings : Settings where
  connections := ⟨[("archive", archive), ("shop", shop)], by decide⟩

/-- The settings, with the connections in descending order. -/
def settingsForm : Json :=
  .object [("connections",
      .object [("shop", shop.toJson), ("archive", archive.toJson)]),
    ("lsp", ({} : LogSettings).toJson)]

theorem settings_isWritten : settings.IsWritten settingsForm :=
  ⟨_, .swap _ _ _, rfl⟩

/-- Forms that differ from what is written, settings that are left out, and the
largest number of rows. -/
theorem values_exchanged_forms :
    (Connection.ofJson connectionForm).map Connection.toJson =
        .ok (Connection.toJson ⟨.postgres, "host=db"⟩) ∧
      Connection.ofJson (Connection.toJson ⟨.postgres, "host=db"⟩) =
        Connection.ofJson connectionForm ∧
      (Column.ofJson columnForm).map Column.toJson = .ok column.toJson ∧
      Column.ofJson column.toJson = Column.ofJson columnForm ∧
      (Json.parse? (ExecResult.toJson ⟨18446744073709551615⟩).render).map
          ExecResult.ofJson = some (.ok ⟨18446744073709551615⟩) ∧
      LogSettings.ofJson (.array [.string "warn"]) = .ok ⟨"warn"⟩ ∧
      Settings.ofJson (.object [("verbose", .bool true)]) = .ok {} ∧
      settings.IsWritten settingsForm ∧
      Settings.ofJson settingsForm = .ok settings := by
  obtain ⟨-, hcolumn, -, -, -, hexec, hconnection, -, hlog, hsettings,
    hordered⟩ := values_exchanged
  have hconnectionForm : (Connection.ofJson connectionForm).map
      Connection.toJson = .ok (Connection.toJson ⟨.postgres, "host=db"⟩) := by
    rw [connectionForm_read]
    rfl
  have hcolumnForm : (Column.ofJson columnForm).map Column.toJson =
      .ok column.toJson := by
    rw [columnForm_read]
    rfl
  exact ⟨hconnectionForm, (hconnection.normal _ _ hconnectionForm).1,
    hcolumnForm, (hcolumn.normal _ _ hcolumnForm).1, hexec.reads_text _,
    hlog.reads_array ⟨"warn"⟩ _ rfl,
    hsettings.reads_object {} _ [("verbose", .bool true)] rfl (by
      simp [Json.lookup, LogSettings.toJson, SortedMap.empty]),
    settings_isWritten, (hordered _ _ settings_isWritten).1⟩

end ExchangeWitness

end SchemaScope

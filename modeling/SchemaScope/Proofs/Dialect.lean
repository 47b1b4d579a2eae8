import SchemaScope.Program
import SchemaScope.Proofs.Json.Record
import SchemaScope.Proofs.Text.LowerCase

/-!
By which texts a dialect is recognised. Main statement: these are the names of
the dialect up to the case of ASCII letters, though lower case is that of all
alphabets, and they are the same wherever a dialect is spelt: in JSON, in a
settings file, in the environment and on the command line.
-/

namespace SchemaScope

namespace Dialect

/-- A text is one of the names that a dialect is recognised by, in capitals or
not. -/
def Named (d : Dialect) (text : String) : Prop :=
  ∃ name, (name, d) ∈ aliases ∧ Text.sameIgnoringCase text name = true

theorem lookup_aliases :
    ∀ entry ∈ aliases, aliases.lookup entry.1 = some entry.2 := by
  decide +kernel

/-- The names of dialects are ASCII, without capitals and without the letter k,
which is the small letter of a character outside ASCII. -/
theorem aliases_letters :
    ∀ entry ∈ aliases, ∀ c ∈ entry.1.toList,
      (Text.IsAscii c ∧ c ≠ 'k') ∧ c.toLower = c := by
  have hall : (aliases.all fun entry => entry.1.toList.all fun c =>
      (Text.IsAscii c ∧ c ≠ 'k') ∧ c.toLower = c) = true := by
    decide +kernel
  simpa only [List.all_eq_true, decide_eq_true_eq] using hall

theorem lowerCase_eq_alias_iff {text name : String} {d : Dialect}
    (h : (name, d) ∈ aliases) :
    Text.lowerCase text = name ↔ Text.sameIgnoringCase text name = true := by
  have hletters := aliases_letters _ h
  have hlower : name.toList.map Char.toLower = name.toList := by
    rw [List.map_congr_left fun c hc => (hletters c hc).2, List.map_id']
  rw [Text.lowerCase_eq_iff fun c hc => (hletters c hc).1,
    Text.sameIgnoringCase, beq_iff_eq, hlower]

variable {text : String} {d : Dialect}

theorem ofName?_eq_some_iff : ofName? text = some d ↔ d.Named text := by
  constructor
  · intro h
    obtain ⟨before, after, haliases, _⟩ := List.lookup_eq_some_iff.1 h
    have hmem : (Text.lowerCase text, d) ∈ aliases := by
      rw [haliases]
      simp
    exact ⟨_, hmem, (lowerCase_eq_alias_iff hmem).1 rfl⟩
  · rintro ⟨name, hmem, hsame⟩
    rw [ofName?, (lowerCase_eq_alias_iff hmem).2 hsame]
    exact lookup_aliases _ hmem

theorem ofText_eq_ok_iff : ofText text = .ok d ↔ d.Named text := by
  rw [← ofName?_eq_some_iff, ofText]
  cases ofName? text <;> simp

/-- A text that names no dialect is refused, and the error holds it in lower
case. -/
theorem ofText_eq_error_iff {e : ConnectionError} :
    ofText text = .error e ↔
      (∀ d : Dialect, ¬d.Named text) ∧
        e = .unsupportedDriver (Text.lowerCase text) := by
  simp only [← ofName?_eq_some_iff, ofText]
  cases ofName? text <;> simp [eq_comm]

/-- A name of a dialect has no characters outside ASCII. -/
theorem Named.isAscii (h : d.Named text) :
    ∀ c ∈ text.toList, Text.IsAscii c := by
  obtain ⟨name, hmem, hsame⟩ := h
  intro c hc
  have hlower : c.toLower ∈ name.toList.map Char.toLower :=
    beq_iff_eq.1 hsame ▸ List.mem_map_of_mem hc
  obtain ⟨letter, hletter, heq⟩ := List.mem_map.1 hlower
  obtain ⟨⟨hascii, _⟩, hsmall⟩ := aliases_letters _ hmem letter hletter
  exact Text.isAscii_of_toLower (heq ▸ hsmall.symm ▸ hascii)

theorem ofJson_eq_ok_iff {j : Json} :
    ofJson j = .ok d ↔ ∃ text, j = .string text ∧ d.Named text := by
  cases j with
  | string text =>
      simp only [Json.string.injEq, exists_eq_left', ← ofText_eq_ok_iff]
      change (ofText text).mapError _ = .ok d ↔ _
      cases ofText text <;> simp [Except.mapError]
  | _ => simp [ofJson, Json.toText, bind, Except.bind]

end Dialect

/-! The places where a dialect is spelt: JSON, a settings file, the environment
and the command line. -/

theorem Connection.ofJson_object_eq_ok_iff {fields : List (String × Json)}
    {c : Connection} :
    ofJson (.object fields) = .ok c ↔
      ∃ text, Json.lookup fields "driver" = some (.string text) ∧
        c.dialect.Named text ∧
        Json.lookup fields "dataSourceName" = some (.string c.source) := by
  have hobject : ofJson (.object fields) = .ok c ↔
      (mk <$> (Json.FieldSource.named fields).take 0 "driver" Dialect.ofJson <*>
        (Json.FieldSource.named fields).take 1 "dataSourceName" Json.toText) =
          .value c := by
    rw [ofJson, Json.toRecord_eq_ok_iff]
    simp
  rw [hobject, Json.Taken.seq_eq_value_iff]
  simp only [Json.Taken.map_eq_value_iff, Json.FieldSource.take_eq_value_iff,
    Json.toText_eq_ok_iff, Dialect.ofJson_eq_ok_iff, Json.FieldSource.get?]
  constructor
  · rintro ⟨_, source, ⟨d, ⟨_, hdriver, text, rfl, hnamed⟩, rfl⟩,
      ⟨_, hsource, rfl⟩, rfl⟩
    exact ⟨text, hdriver, hnamed, hsource⟩
  · rintro ⟨text, hdriver, hnamed, hsource⟩
    exact ⟨_, c.source, ⟨c.dialect, ⟨_, hdriver, text, rfl, hnamed⟩, rfl⟩,
      ⟨_, hsource, rfl⟩, rfl⟩

theorem ConnectionEntry.driver_of_ofToml? {fields : List (String × Toml.Value)}
    {entry : ConnectionEntry} (h : ofToml? (.table fields) = some entry) :
    Toml.field? fields "driver" = some (.string entry.driver) := by
  have htext {value : Toml.Value} {text : String}
      (h : value.text? = some text) : value = .string text := by
    cases value <;> simp_all [Toml.Value.text?]
  by_cases hreadable : Toml.Value.fieldsReadable fields = true
  · simp only [ofToml?, hreadable, Bool.not_true, Bool.false_eq_true,
      ↓reduceIte, Option.bind_eq_bind, Option.bind_eq_some_iff, pure,
      Option.some.injEq] at h
    obtain ⟨value, hfield, driver, hdriver, _, _, _, _, rfl⟩ := h
    rw [hfield, htext hdriver]
  · simp [ofToml?, hreadable] at h

/-- Settings keep what is written, and only what is written decides. -/
theorem ConnectionEntry.dialect_eq_ok_iff {entry : ConnectionEntry}
    {d : Dialect} : entry.dialect = .ok d ↔ d.Named entry.driver := by
  rw [← Dialect.ofText_eq_ok_iff, dialect]
  cases Dialect.ofText entry.driver <;> simp

/-- Where a data source is named, the environment describes a connection if it
names a dialect. -/
theorem Connection.ofEnvironment_eq_ok_iff {env : Environment}
    {text source : String} (htext : env.get? dialectVariable = some text)
    (hsource : env.get? sourceVariable = some source)
    (hblank : Text.isBlankText source = false) {c : Connection} :
    ofEnvironment env = .ok c ↔ c.source = source ∧ c.dialect.Named text := by
  have hvalid (d : Dialect) : validate ⟨d, source⟩ = .ok () := by
    simp [validate, hblank]
  have henv : ofEnvironment env =
      (Dialect.ofText text).map fun d => ⟨d, source⟩ := by
    simp only [ofEnvironment, require, htext, hsource]
    cases hd : Dialect.ofText text with
    | error e => simp [hd, bind, Except.bind, Except.map]
    | ok d =>
        by_cases hsqlite : d = .sqlite
        · simp [hd, hsqlite, hvalid, bind, Except.bind, Except.map, pure,
            Except.pure]
        · simp [hd, hsqlite, hvalid, bind, Except.bind, Except.map, pure,
            Except.pure]
  rw [henv, ← Dialect.ofText_eq_ok_iff]
  obtain ⟨dialect, name⟩ := c
  cases Dialect.ofText text with
  | error e => simp [Except.map]
  | ok d => simp [Except.map, and_comm, eq_comm]

theorem Program.resolve_eq_ok_iff (env : Environment) (settings : Settings)
    {options : InspectOptions} {source : String}
    (hconnection : options.connection = none)
    (hsource : options.source = some source) {c : Connection} :
    resolve env settings options = .ok c ↔
      c.source = source ∧ c.dialect.Named options.driver := by
  rw [← Dialect.ofText_eq_ok_iff, resolve, hconnection, hsource]
  obtain ⟨dialect, name⟩ := c
  cases Dialect.ofText options.driver with
  | error e => simp [bind, Except.bind, Except.mapError]
  | ok d =>
      simp [bind, Except.bind, Except.mapError, pure, Except.pure,
        and_comm, eq_comm]

namespace CommandLine

theorem splitEquals_append {name : String} (h : '=' ∉ name.toList)
    (value : String) :
    splitEquals (name.toList ++ '=' :: value.toList) = (name, some value) := by
  have hname : ∀ c ∈ name.toList, decide (c ≠ '=') = true := by
    intro c hc
    exact decide_eq_true fun heq => h (heq ▸ hc)
  rw [splitEquals, List.dropWhile_append_of_pos hname,
    List.takeWhile_append_of_pos hname]
  simp

/-- The value of an option may be any text if it stands behind an equals
sign. -/
theorem ofText_long {name : String} {flag : Flag} (h : (name, flag) ∈ names)
    (value : String) :
    Argument.ofText ("--" ++ name ++ "=" ++ value) =
      .option flag (some value) := by
  have hnames : ∀ entry ∈ names, ∃ first rest, entry.1.toList = first :: rest ∧
      '=' ∉ first :: rest ∧ names.lookup entry.1 = some entry.2 := by
    simp [names, List.lookup_cons]
  obtain ⟨first, rest, hname, hequals, hlookup⟩ := hnames _ h
  have hchars : ("--" ++ name ++ "=" ++ value).toList =
      '-' :: '-' :: first :: (rest ++ '=' :: value.toList) := by
    simp [hname]
  have hsplit : splitEquals (first :: (rest ++ '=' :: value.toList)) =
      (name, some value) := by
    rw [← splitEquals_append (hname ▸ hequals) value, hname, List.cons_append]
  simp [Argument.ofText, hchars, hsplit, hlookup]

theorem inspect?_long {name : String} {flag : Flag} (h : (name, flag) ∈ names)
    (value : String) {given : List Flag} (hgiven : given.contains flag = false)
    (options : InspectOptions) (rest : List String) :
    inspect? given options (("--" ++ name ++ "=" ++ value) :: rest) =
      (InspectOptions.set? options value flag).bind
        (inspect? (flag :: given) · rest) := by
  rw [inspect?.eq_def]
  simp only [ofText_long h value, hgiven]
  rfl

theorem parse?_inspect (text source : String) :
    parse? ["inspect", "--driver=" ++ text, "--source=" ++ source] =
      some (.inspect { driver := text, source := some source }) := by
  have hdriver : ("driver", Flag.driver) ∈ names := by decide
  have hsource : ("source", Flag.source) ∈ names := by decide
  calc parse? ["inspect", "--driver=" ++ text, "--source=" ++ source]
    _ = inspect? [] {} ["--driver=" ++ text, "--source=" ++ source] := rfl
    _ = inspect? [.driver] { driver := text } ["--source=" ++ source] :=
        inspect?_long hdriver text rfl _ _
    _ = inspect? [.source, .driver]
          { driver := text, source := some source } [] :=
        inspect?_long hsource source rfl _ _
    _ = some (.inspect { driver := text, source := some source }) := by
        simp [inspect?]

end CommandLine

namespace Dialect

/-- A text is taken for a dialect, or for none, alike in all places where
dialects are spelt and nothing else is wrong. -/
structure SpeltAlike (text : String) (d : Dialect) : Prop where
  json : ∀ fields source, Json.lookup fields "driver" = some (.string text) →
    Json.lookup fields "dataSourceName" = some (.string source) →
      (Connection.ofJson (.object fields) = .ok ⟨d, source⟩ ↔ d.Named text)
  settings : ∀ fields entry,
    ConnectionEntry.ofToml? (.table fields) = some entry →
      Toml.field? fields "driver" = some (.string text) →
        (entry.dialect = .ok d ↔ d.Named text)
  environment : ∀ (env : Environment) source,
    env.get? Connection.dialectVariable = some text →
      env.get? Connection.sourceVariable = some source →
        Text.isBlankText source = false →
          (Connection.ofEnvironment env = .ok ⟨d, source⟩ ↔ d.Named text)
  commandLine : ∀ source, ∃ options,
    CommandLine.parse? ["inspect", "--driver=" ++ text, "--source=" ++ source] =
        some (.inspect options) ∧
      ∀ env settings, Program.resolve env settings options = .ok ⟨d, source⟩ ↔
        d.Named text

theorem speltAlike (text : String) (d : Dialect) : SpeltAlike text d where
  json fields source hdriver hsource := by
    rw [Connection.ofJson_object_eq_ok_iff]
    simp [hdriver, hsource]
  settings fields entry hread hdriver := by
    have hentry := ConnectionEntry.driver_of_ofToml? hread
    rw [hdriver, Option.some.injEq, Toml.Value.string.injEq] at hentry
    rw [ConnectionEntry.dialect_eq_ok_iff, hentry]
  environment env source htext hsource hblank := by
    rw [Connection.ofEnvironment_eq_ok_iff htext hsource hblank]
    simp
  commandLine source := by
    refine ⟨_, CommandLine.parse?_inspect text source, fun env settings => ?_⟩
    rw [Program.resolve_eq_ok_iff env settings rfl rfl]
    simp

/-- A text is taken for a dialect exactly if it is one of its names up to the
case of ASCII letters. Any other text, and so every text with a character
outside ASCII, is refused with an error that holds it in lower case. Wherever a
dialect is spelt the same texts are taken. -/
theorem ofText_recognised (text : String) :
    (∀ d, ofText text = .ok d ↔ d.Named text) ∧
    (∀ e, ofText text = .error e ↔
      (∀ d : Dialect, ¬d.Named text) ∧
        e = .unsupportedDriver (Text.lowerCase text)) ∧
    ((∃ c ∈ text.toList, ¬Text.IsAscii c) →
      ofText text = .error (.unsupportedDriver (Text.lowerCase text))) ∧
    ∀ d, SpeltAlike text d := by
  refine ⟨fun d => ofText_eq_ok_iff, fun e => ofText_eq_error_iff, ?_,
    speltAlike text⟩
  rintro ⟨c, hc, houtside⟩
  rw [ofText_eq_error_iff]
  exact ⟨fun d hd => houtside (hd.isAscii c hc), rfl⟩

/-- Capitals do not matter. A dotted capital I leaves a dot behind, and a sigma
becomes a final one at the end of a word, so that neither is taken for a letter
of a name. -/
theorem ofText_recognised_spellings :
    ofText "PostgreSQL" = .ok .postgres ∧
      Connection.ofJson (.object [("driver", .string "PostgreSQL"),
        ("dataSourceName", .string "db")]) = .ok ⟨.postgres, "db"⟩ ∧
      (∃ c ∈ "SQLİTE".toList, ¬Text.IsAscii c) ∧
      ofText "SQLİTE" = .error (.unsupportedDriver "sqli̇te") ∧
      ofText "MYSQLΣ" = .error (.unsupportedDriver "mysqlς") := by
  have hnamed : postgres.Named "PostgreSQL" :=
    ⟨"postgresql", by decide, by decide +kernel⟩
  obtain ⟨htaken, _, _, halike⟩ := ofText_recognised "PostgreSQL"
  have hdotted : ∃ c ∈ "SQLİTE".toList, ¬Text.IsAscii c :=
    ⟨'İ', by decide, by decide⟩
  have hsigma : ∃ c ∈ "MYSQLΣ".toList, ¬Text.IsAscii c :=
    ⟨'Σ', by decide, by decide⟩
  refine ⟨(htaken _).2 hnamed, ?_, hdotted, ?_, ?_⟩
  · exact ((halike postgres).json _ _ rfl rfl).2 hnamed
  · rw [(ofText_recognised "SQLİTE").2.2.1 hdotted]
    decide +kernel
  · rw [(ofText_recognised "MYSQLΣ").2.2.1 hsigma]
    decide +kernel

end Dialect

end SchemaScope

import SchemaScope.Proofs.Sqlite.Contents

/-!
The tables that are listed for the schemas of an SQLite database. The names that
the database keeps for itself begin with `sqlite_`, but the pattern that picks
them out takes any character in the place of the underscore. Main statement: all
tables of a schema are listed but those with a name that matches so loosely, and
the tables of the user are all there exactly if none of them has one.
-/

namespace SchemaScope

namespace Text

theorem like_percent (text : List Char) : like ['%'] text = true := by
  induction text with
  | nil => simp [like]
  | cons c rest ih => simp [like, ih]

theorem like_underscore_percent_iff {text : List Char} :
    like ['_', '%'] text = true ↔ text ≠ [] := by
  cases text with
  | nil => simp [like]
  | cons c rest => simp [like, like_percent]

/-- Letters of a pattern stand for themselves, in capitals or not. -/
theorem like_append_iff {letters : List Char}
    (hletters : ∀ c ∈ letters, c ≠ '%' ∧ c ≠ '_') (pattern text : List Char) :
    like (letters ++ pattern) text = true ↔
      letters.map Char.toLower <+: text.map Char.toLower ∧
        like pattern (text.drop letters.length) = true := by
  induction letters generalizing text with
  | nil => simp
  | cons letter letters ih =>
      obtain ⟨⟨hpercent, hunderscore⟩, hrest⟩ := List.forall_mem_cons.1 hletters
      cases text with
      | nil => simp [like]
      | cons c rest => simp [like, ih hrest, List.cons_prefix_cons, and_assoc]

end Text

namespace Sqlite

/-- What the names that a database keeps for itself begin with, in capitals or
not. -/
def internalPrefix : List Char := "sqlite_".toList

/-- A name is one that a database keeps for itself. -/
def Internal (name : String) : Prop :=
  internalPrefix <+: name.toList.map Char.toLower

/-- A name may have any character in the place of the underscore. -/
def LooksInternal (name : String) : Prop :=
  internalPrefix.dropLast <+: name.toList.map Char.toLower ∧
    internalPrefix.length ≤ name.length

instance : DecidablePred Internal := fun name =>
  inferInstanceAs (Decidable (internalPrefix <+: name.toList.map Char.toLower))

instance : DecidablePred LooksInternal := fun name =>
  inferInstanceAs (Decidable
    (internalPrefix.dropLast <+: name.toList.map Char.toLower ∧ _))

theorem Internal.looksInternal {name : String} (h : Internal name) :
    LooksInternal name := by
  have hlength := h.length_le
  rw [List.length_map, String.length_toList] at hlength
  exact ⟨(List.dropLast_prefix internalPrefix).trans h, hlength⟩

theorem like_internalPattern_iff {name : String} :
    Text.like Catalog.internalPattern name.toList = true ↔
      LooksInternal name := by
  have hpattern : Catalog.internalPattern =
      internalPrefix.dropLast ++ ['_', '%'] := by decide
  have hspelt : internalPrefix.dropLast = ['s', 'q', 'l', 'i', 't', 'e'] := by
    decide
  have hletters : ∀ c ∈ internalPrefix.dropLast, c ≠ '%' ∧ c ≠ '_' := by
    simp [hspelt]
  have hlower : internalPrefix.dropLast.map Char.toLower =
      internalPrefix.dropLast := by decide
  have hbehind : name.toList.drop internalPrefix.dropLast.length ≠ [] ↔
      internalPrefix.length ≤ name.length := by
    have hlength : internalPrefix.dropLast.length + 1 =
        internalPrefix.length := by decide
    rw [ne_eq, List.drop_eq_nil_iff, String.length_toList]
    omega
  rw [hpattern, Text.like_append_iff hletters, hlower,
    Text.like_underscore_percent_iff, hbehind]
  rfl

namespace MasterRow

/-- A row stands for a table or a view. -/
def IsTableOrView (row : MasterRow) : Prop :=
  row.type = "table" ∨ row.type = "view"

instance : DecidablePred IsTableOrView := fun row =>
  inferInstanceAs (Decidable (row.type = "table" ∨ _))

/-- The tables and views of the user, in the order of the rows. -/
def users (rows : List MasterRow) : List String :=
  (rows.filter fun row => row.IsTableOrView ∧ ¬Internal row.name).map name

/-- The tables and views whose names do not look like those that the database
keeps for itself, in the order of the rows. -/
def listed (rows : List MasterRow) : List String :=
  (rows.filter fun row => row.IsTableOrView ∧ ¬LooksInternal row.name).map name

theorem isTable_iff {row : MasterRow} :
    Catalog.MasterRow.isTable row = true ↔
      row.IsTableOrView ∧ ¬LooksInternal row.name := by
  simp [Catalog.MasterRow.isTable, IsTableOrView, ← like_internalPattern_iff]

theorem map_filter_isTable (rows : List MasterRow) :
    (rows.filter Catalog.MasterRow.isTable).map name = listed rows := by
  rw [listed]
  congr 2
  funext row
  rw [Bool.eq_iff_iff, isTable_iff, decide_eq_true_iff]

/-- A list from which more is taken out is shorter if and only if there is
something to take out. -/
theorem map_filter_eq_iff {α β : Type} {p q : α → Bool} {items : List α}
    (f : α → β) (hpq : ∀ a, p a = true → q a = true) :
    (items.filter p).map f = (items.filter q).map f ↔
      ∀ a ∈ items, q a = true → p a = true := by
  constructor
  · intro heq a ha hq
    have hlength : (items.filter p).length = (items.filter q).length := by
      simpa using congrArg List.length heq
    have hsame : items.filter p = items.filter q :=
      (List.monotone_filter_right items hpq).eq_of_length hlength
    have hmem : a ∈ items.filter p := hsame ▸ List.mem_filter.2 ⟨ha, hq⟩
    exact (List.mem_filter.1 hmem).2
  · intro hqp
    rw [List.filter_congr fun a ha => Bool.eq_iff_iff.2 ⟨hpq a, hqp a ha⟩]

theorem listed_eq_users_iff {rows : List MasterRow} :
    listed rows = users rows ↔
      ∀ row ∈ rows, row.IsTableOrView → LooksInternal row.name →
        Internal row.name := by
  rw [listed, users, map_filter_eq_iff]
  · refine forall₂_congr fun row _ => ?_
    simp only [decide_eq_true_eq]
    constructor
    · intro h hrow hlooks
      by_contra hnot
      exact (h ⟨hrow, hnot⟩).2 hlooks
    · rintro h ⟨hrow, hnot⟩
      exact ⟨hrow, fun hlooks => hnot (h hrow hlooks)⟩
  · intro row h
    simp only [decide_eq_true_eq] at h ⊢
    exact ⟨h.1, fun hinternal => h.2 hinternal.looksInternal⟩

end MasterRow

namespace Catalog

variable {c : Catalog}

theorem Lists.answer_schemaTables {d : Contents} (hc : c.Lists d) :
    c.repository.answer .schemaTables =
      .ok (d.schemas.eraseDups.map fun schema =>
        (schema, MasterRow.listed (d.master schema))) := by
  change refused c.schemaTables = _
  rw [hc.schemaTables_eq]
  simp [refused, Except.mapError, Contents.tables, MasterRow.map_filter_isTable]

/-- A database lists each of its schemas once, and with it all tables and views
but those whose names look like the ones it keeps for itself. These are the
tables and views of the user if and only if no name only looks so. -/
theorem answer_schemaTables_iff (c : Catalog)
    (reports : List (String × List String)) :
    (c.repository.answer .schemaTables = .ok reports ↔
      ∃ d, c.Lists d ∧ reports = d.schemas.eraseDups.map fun schema =>
        (schema, MasterRow.listed (d.master schema))) ∧
      ∀ rows, MasterRow.listed rows = MasterRow.users rows ↔
        ∀ row ∈ rows, row.IsTableOrView → LooksInternal row.name →
          Internal row.name := by
  refine ⟨⟨fun hanswer => ?_, ?_⟩, fun rows => MasterRow.listed_eq_users_iff⟩
  · obtain ⟨d, hd⟩ := exists_lists (exists_of_refused_eq_ok hanswer)
    exact ⟨d, hd, Except.ok.inj (hanswer.symm.trans hd.answer_schemaTables)⟩
  · rintro ⟨d, hd, rfl⟩
    exact hd.answer_schemaTables

namespace TablesWitness

/-- Of two names that begin with the same letters one is the user's. -/
def rows : List MasterRow :=
  [⟨"table", "sqliteX"⟩, ⟨"view", "orders"⟩, ⟨"table", "sqlite_sequence"⟩]

def catalog : Catalog := { Catalog.new with master := fun _ => .ok rows }

theorem lists_catalog :
    catalog.Lists ⟨[("main", some "")], fun _ => rows, fun _ _ => []⟩ :=
  ⟨rfl, fun _ _ => rfl⟩

/-- A table of the user is hidden. -/
theorem answer_schemaTables_hidden :
    catalog.databaseList = .ok [("main", some "")] ∧
      catalog.master "main" = .ok rows ∧
      MasterRow.users rows = ["sqliteX", "orders"] ∧
      catalog.repository.answer .schemaTables = .ok [("main", ["orders"])] := by
  refine ⟨rfl, rfl, by decide, ?_⟩
  rw [lists_catalog.answer_schemaTables]
  decide

end TablesWitness

end Catalog

end Sqlite

end SchemaScope

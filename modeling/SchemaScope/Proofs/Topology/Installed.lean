import SchemaScope.Proofs.Topology.Merging
import SchemaScope.Proofs.Worker.Answers

/-!
The topology of a cache that a bind has installed. A database names its schemas
in one answer and their tables in another, and the two need not agree. Main
statement: the cache has the schemas that are listed and then those that only
come with tables, each once and in order, with every table that is reported for
it; this stays so for as long as the cache is kept.
-/

namespace SchemaScope

namespace Topology

/-- The tables that are reported for a schema, in the order of the reports. -/
def reportedFor (reports : List (String × List String)) (schema : String) :
    List String :=
  (reports.filter (·.1 = schema)).flatMap Prod.snd

/-- A topology brings together the schemas that are listed and the tables that
are reported. -/
structure Merges (t : Topology) (currentSchema : String)
    (listed : List String) (reports : List (String × List String)) : Prop where
  schemas : t.schemas = listed.eraseDups ++
    ((reports.map Prod.fst).filter (· ∉ listed)).eraseDups
  tablesOf : ∀ schema,
    t.tablesOf schema = (reportedFor reports schema).eraseDups
  tablesOf_of_mem : (reports.map Prod.fst).Nodup →
    ∀ schema names, (schema, names) ∈ reports →
      t.tablesOf schema = names.eraseDups
  tablesOf_of_notMem : ∀ schema, schema ∉ reports.map Prod.fst →
    t.tablesOf schema = []
  allTables : t.allTables = t.schemas.flatMap fun schema =>
    (t.tablesOf schema).map (⟨schema, ·⟩)
  nodup : t.allTables.Nodup
  hasTable_iff_mem : ∀ schema table,
    t.hasTable schema table = true ↔ ⟨schema, table⟩ ∈ t.allTables
  hasTable_iff_reported : ∀ schema table,
    t.hasTable schema table = true ↔
      ∃ names, (schema, names) ∈ reports ∧ table ∈ names
  defaultSchema : t.defaultSchema =
    if currentSchema = "" then t.schemas.headD "" else currentSchema

section

variable {reports : List (String × List String)} {schema table : String}

theorem mem_reportedFor :
    table ∈ reportedFor reports schema ↔
      ∃ names, (schema, names) ∈ reports ∧ table ∈ names := by
  simp [reportedFor]

theorem reportedFor_of_notMem (h : schema ∉ reports.map Prod.fst) :
    reportedFor reports schema = [] := by
  refine List.eq_nil_iff_forall_not_mem.2 fun table htable => ?_
  obtain ⟨names, hnames, _⟩ := mem_reportedFor.1 htable
  exact h (List.mem_map_of_mem hnames)

/-- Where each schema is reported once, its report says it all. -/
theorem reportedFor_of_mem {names : List String}
    (hdistinct : (reports.map Prod.fst).Nodup)
    (hmem : (schema, names) ∈ reports) :
    reportedFor reports schema = names := by
  induction reports with
  | nil => cases hmem
  | cons report rest ih =>
      obtain ⟨hnot, hrest⟩ := List.nodup_cons.1 hdistinct
      rcases List.mem_cons.1 hmem with rfl | hmem
      · have hothers : reportedFor rest schema = [] :=
          reportedFor_of_notMem hnot
        rw [reportedFor] at hothers ⊢
        simp [hothers]
      · have hne : report.1 ≠ schema := by
          rintro rfl
          exact hnot (List.mem_map.2 ⟨_, hmem, rfl⟩)
        rw [← ih hrest hmem, reportedFor, reportedFor,
          List.filter_cons_of_neg (by simpa using hne)]

end

theorem merges_ofAnswers (currentDatabase : Option String)
    (databases : List String) (currentSchema : String) (listed : List String)
    (reports : List (String × List String)) :
    (ofAnswers currentDatabase databases currentSchema listed
      reports).Merges currentSchema listed reports := by
  have htables := tablesOf_ofAnswers currentDatabase databases currentSchema
    listed reports
  constructor
  case schemas =>
    rw [schemas_ofAnswers, List.eraseDups_append, List.removeAll]
    simp
  case tablesOf => exact htables
  case tablesOf_of_mem =>
    intro hdistinct schema names hmem
    rw [htables, ← reportedFor, reportedFor_of_mem hdistinct hmem]
  case tablesOf_of_notMem =>
    intro schema hschema
    rw [htables, ← reportedFor, reportedFor_of_notMem hschema]
    rfl
  case allTables => exact allTables_eq _
  case nodup => exact allTables_nodup _
  case hasTable_iff_mem =>
    intro schema table
    exact hasTable_iff
  case hasTable_iff_reported =>
    intro schema table
    rw [hasTable, List.contains_iff_mem, htables, List.mem_eraseDups,
      ← mem_reportedFor, reportedFor]
  case defaultSchema => simp [ofAnswers, schemas]

end Topology

namespace History

variable {ρ : Type} {H : History ρ}

/-- As long as a cache is kept, its topology is the one that it was installed
with. -/
theorem Installed.topology_eq {j caller n : Nat} {repository : ρ}
    {installed cache : SchemaCache}
    (h : H.Installed j caller repository installed)
    (hn : n ≤ H.steps.length) (hcache : cache ∈ (H.worker n).caches)
    (hgeneration : cache.generation = installed.generation) :
    cache.topology = installed.topology := by
  obtain ⟨_, _, _, _, hinstalled⟩ := (H.published hn).installed cache hcache
  obtain ⟨_, _, _, htopology⟩ := hinstalled.unique h hgeneration
  exact htopology

/-- A bind that has returned without an error has published a cache that brings
together its answers about schemas and about tables. It does so at every later
time at which the cache is still there. -/
theorem bind_merges {b : H.Bind} (h : b.Returns (.ok ())) :
    ∃ j installed currentDatabase databases currentSchema listed reports,
      b.first < j ∧ j < b.last ∧
      H.Installed j b.caller b.repository installed ∧
      b.replies = [⟨.currentDatabase, currentDatabase⟩,
        ⟨.databases, databases⟩, ⟨.currentSchema, .ok currentSchema⟩,
        ⟨.schemas, .ok listed⟩, ⟨.schemaTables, .ok reports⟩] ∧
      (∃ cache, (H.worker (j + 1)).cache? = some cache ∧
        cache.fixed = installed.fixed) ∧
      installed.topology.Merges currentSchema listed reports ∧
      ∀ n cache, n ≤ H.steps.length → cache ∈ (H.worker n).caches →
        cache.generation = installed.generation →
        cache.topology.Merges currentSchema listed reports := by
  obtain ⟨j, installed, hfirst, hlast, hinstalled, hled⟩ := h.exists_installed
  obtain ⟨currentDatabase, databases, currentSchema, listed, reports, hreplies,
    htopology⟩ := Topology.exists_of_inquiry hled
  have hmerges : installed.topology.Merges currentSchema listed reports := by
    rw [htopology]
    exact Topology.merges_ofAnswers _ _ currentSchema listed reports
  have hpublished := hinstalled.exists_published (Nat.lt_succ_self j)
    fun k id hjk hkj => absurd hkj (Nat.not_lt_of_le hjk)
  refine ⟨j, installed, currentDatabase, databases, currentSchema, listed,
    reports, hfirst, hlast, hinstalled, hreplies, hpublished, hmerges, ?_⟩
  intro n cache hn hcache hgeneration
  rw [hinstalled.topology_eq hn hcache hgeneration]
  exact hmerges

namespace MergingWitness

/-- The answers name a schema twice, report one without tables, one with a
repeated table and one that is not listed. Somebody asks for readiness between
them. -/
def steps : List (Label String) :=
  [.bind "shop", .answered .currentDatabase (.ok "shop"),
    .answered .databases (.ok ["shop"]), .answered .currentSchema (.ok ""),
    .answered .schemas (.ok ["b", "a", "b"])].map (.caller 0) ++
  .caller 1 .readCompleted ::
    [.answered .schemaTables (.ok [("c", ["t", "t"]), ("a", ["x", "y", "x"])]),
      .install, .count, .send].map (.caller 0)

def history : History String := ⟨steps, rfl⟩

def bind : history.Bind where
  caller := 0
  repository := "shop"
  first := 0
  last := 9
  begins := rfl
  letIn := rfl
  first_lt := by decide
  last_le := by decide
  present := by
    have hall : ∀ n < 10, 0 < n →
        ((history.worker n).callers.get? 0).isSome = true := by decide
    intro n hfirst hlast
    exact hall n (by omega) hfirst

theorem bind_merges_disagreeing :
    bind.Returns (.ok ()) ∧ ∃ j cache,
      history.Installed j 0 "shop" cache ∧
      cache.topology.schemas = ["b", "a", "c"] ∧
      cache.topology.allTables = [⟨"a", "x"⟩, ⟨"a", "y"⟩, ⟨"c", "t"⟩] ∧
      cache.topology.tablesOf "b" = [] ∧
      cache.topology.defaultSchema = "b" := by
  have hreturns : bind.Returns (.ok ()) := .head _
  obtain ⟨j, cache, _, _, currentSchema, listed, reports, _, _, hinstalled,
    hreplies, _, hmerges, _⟩ := bind_merges hreturns
  obtain ⟨_, hrest⟩ := List.cons.inj hreplies
  obtain ⟨_, hrest⟩ := List.cons.inj hrest
  obtain ⟨hcurrent, hrest⟩ := List.cons.inj hrest
  obtain ⟨hlisted, hrest⟩ := List.cons.inj hrest
  obtain ⟨hreports, _⟩ := List.cons.inj hrest
  cases hcurrent
  cases hlisted
  cases hreports
  have hschemas : cache.topology.schemas = ["b", "a", "c"] :=
    hmerges.schemas.trans (by decide)
  refine ⟨hreturns, j, cache, hinstalled, hschemas, ?_,
    hmerges.tablesOf_of_notMem "b" (by decide), ?_⟩
  · rw [hmerges.allTables, hschemas]
    simp only [hmerges.tablesOf]
    decide
  · rw [hmerges.defaultSchema, hschemas]
    rfl

end MergingWitness

end History

end SchemaScope

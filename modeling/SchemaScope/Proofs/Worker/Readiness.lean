import Mathlib.Tactic.ByContra
import SchemaScope.Proofs.Worker.Refreshes

/-!
Readiness is sound. Whoever is told that the worker is ready looks at two
numbers one after the other, and any steps may come in between; still there is a
completed refresh that began after every request counted until then.
-/

namespace SchemaScope

namespace Worker

variable {ρ : Type} {w w' : Worker ρ} {events : List Event}

/-- A caller that has yet to count its request does nothing else. -/
theorem CallerMove.eq_count_of_requesting {id : Nat} {move : CallerStep ρ}
    (h : CallerMove w id move w' events) {installed : Option Nat}
    (hid : w.callers.get? id = some (.requesting installed)) :
    move = .count := by
  cases h with
  | count => rfl
  | _ => simp_all

theorem requested_of_count {id : Nat}
    (h : w.step (.caller id .count) = some (w', events)) :
    w'.requested = w.requested + 1 := by
  cases callerMove_of_step h with
  | count => rfl

theorem requesting_of_install {id : Nat}
    (h : w.step (.caller id .install) = some (w', events)) :
    ∃ installed, w'.callers.get? id = some (.requesting installed) := by
  cases callerMove_of_step h with
  | install => exact ⟨_, (get?_goOn _ id id _).trans (if_pos rfl)⟩

/-- The number of complete requests that a caller has read is one that was
not zero. -/
theorem comparing_cases {label : Label ρ} {id completed : Nat}
    (h : w.step label = some (w', events))
    (hid : w'.callers.get? id = some (.comparing completed)) :
    w.callers.get? id = some (.comparing completed) ∨
      w.completed = completed ∧ completed ≠ 0 := by
  by_cases hlabel : ∃ move, label = .caller id move
  · obtain ⟨move, rfl⟩ := hlabel
    cases callerMove_of_step h with
    | refuse | unready | stopAgain => exact .inl hid
    | readCompleted _ hcompleted =>
        rw [get?_goOn, if_pos rfl] at hid
        cases hid
        exact .inr ⟨rfl, hcompleted⟩
    | brokenOff | giveUp | send | readRequested | dismiss =>
        rw [get?_leave, if_pos rfl] at hid
        cases hid
    | _ =>
        rw [get?_goOn, if_pos rfl] at hid
        cases hid
  · rw [get?_eq_of_step h (not_exists.1 hlabel)] at hid
    exact .inl hid

theorem readRequested_of_ready_mem {label : Label ρ} {asker : Nat}
    (h : w.step label = some (w', events))
    (hready : Event.ready asker true ∈ events) :
    w.callers.get? asker = some (.comparing w.requested) := by
  cases label with
  | caller id move =>
      cases callerMove_of_step h with
      | readRequested completed hid =>
          simp only [List.mem_singleton, Event.ready.injEq] at hready
          obtain ⟨rfl, heq⟩ := hready
          rw [hid, of_decide_eq_true heq.symm]
      | send installed hid =>
          cases installed <;> simp [returned] at hready
      | _ => simp at hready
  | loop move =>
      obtain ⟨_, heq⟩ := (loopMove_of_step h).exists_warning hready
      cases heq
  | drop =>
      rw [(eq_of_drop h).2] at hready
      cases hready

end Worker

namespace History

variable {ρ : Type} {H : History ρ}

/-- A refresh that the loop has declared complete: the steps in which it read
the number of requests, found repository and cache, and declared itself
complete. -/
structure Refresh (H : History ρ) where
  counted : Nat
  begun : Nat
  completed : Nat
  reads : H.steps[counted]? = some (.loop .readRequests)
  finds : H.steps[begun]? = some (.loop .begin)
  completes : H.steps[completed]? = some (.loop .complete)
  counted_lt : counted < begun
  begun_lt : begun < completed
  /-- No other refresh reads the number in the meantime. -/
  alone : ∀ m, counted < m → m < completed →
    H.steps[m]? ≠ some (.loop .readRequests)

/-- A refresh that is complete read the given number of requests, and
whatever it found to do it has done. -/
def Covered (H : History ρ) (requests n : Nat) : Prop :=
  ∃ refresh : H.Refresh, refresh.completed < n ∧
    (H.worker refresh.counted).requested = requests ∧
    ∀ work, (H.worker refresh.begun).assignment? = some work →
      H.Finished refresh.begun work refresh.completed

theorem Covered.succ {requests n : Nat} (h : H.Covered requests n) :
    H.Covered requests (n + 1) := by
  obtain ⟨refresh, hlt, hrest⟩ := h
  exact ⟨refresh, Nat.lt_succ_of_lt hlt, hrest⟩

/-- The loop declares complete what its refresh has covered. -/
theorem covered_of_complete {n : Nat}
    (hlabel : H.steps[n]? = some (.loop .complete)) :
    H.Covered (H.worker (n + 1)).completed (n + 1) := by
  have hn := H.le_length_of_step hlabel
  have hprogress := H.progress hn
  have hmove := Worker.loopMove_of_step (H.step_worker hlabel)
  generalize H.worker (n + 1) = next at hmove ⊢
  generalize H.events n = events at hmove
  cases hmove with
  | complete requests hloop =>
      rw [hloop] at hprogress
      obtain ⟨a, b, ha, hab, hbn, hb, hfinished⟩ := hprogress
      exact ⟨⟨a, b, n, ha.step, hb, hlabel, hab, hbn, ha.latest⟩,
        Nat.lt_succ_self n, ha.requested, hfinished⟩

/-- Every number of complete requests that the worker shows, or that a caller
remembers, is one that a refresh has covered. -/
structure Covering (H : History ρ) (n : Nat) : Prop where
  shown : (H.worker n).completed ≠ 0 →
    H.Covered (H.worker n).completed n
  remembered : ∀ id completed,
    (H.worker n).callers.get? id = some (.comparing completed) →
      H.Covered completed n

theorem covering_zero : H.Covering 0 := by
  constructor
  · intro hne
    rw [H.worker_zero] at hne
    exact absurd rfl hne
  · intro id completed hid
    rw [H.worker_zero] at hid
    cases hid

theorem covering_succ {n : Nat} {label : Label ρ}
    (hlabel : H.steps[n]? = some label) (h : H.Covering n) :
    H.Covering (n + 1) := by
  have hstep := H.step_worker hlabel
  constructor
  · intro hne
    by_cases hcomplete : label = .loop .complete
    · subst hcomplete
      exact covered_of_complete hlabel
    · rw [Worker.completed_eq_of_step hstep hcomplete] at hne ⊢
      exact (h.shown hne).succ
  · intro id completed hid
    rcases Worker.comparing_cases hstep hid with hbefore | ⟨rfl, hne⟩
    · exact (h.remembered id completed hbefore).succ
    · exact (h.shown hne).succ

theorem covering (H : History ρ) {n : Nat} (hn : n ≤ H.steps.length) :
    H.Covering n :=
  H.induction covering_zero (fun _ _ hlabel ih => covering_succ hlabel ih) hn

theorem requested_le (H : History ρ) {m n : Nat} (hmn : m ≤ n) :
    (H.worker m).requested ≤ (H.worker n).requested :=
  H.monotone Worker.requested_le_of_step hmn

/-- As long as the caller that has installed a cache counts no request, it is
about to do so. -/
theorem Installed.requesting {j caller : Nat} {repository : ρ}
    {cache : SchemaCache} (h : H.Installed j caller repository cache) {m : Nat}
    (hjm : j < m)
    (hcount : ∀ c, j < c → c < m →
      H.steps[c]? ≠ some (.caller caller .count)) :
    ∃ installed,
      (H.worker m).callers.get? caller = some (.requesting installed) := by
  refine H.kept_between (P := fun w => ∃ installed,
      w.callers.get? caller = some (.requesting installed)) hjm ?_
    (Worker.requesting_of_install (H.step_worker h.step))
  rintro k label hjk hkm hlabel ⟨installed, hid⟩
  have hstep := H.step_worker hlabel
  refine ⟨installed, (Worker.get?_eq_of_step hstep ?_).trans hid⟩
  rintro move rfl
  have hmove := Worker.callerMove_of_step hstep
  rw [hmove.eq_count_of_requesting hid] at hlabel
  exact hcount k hjk hkm hlabel

/-- Between installing its cache and returning a bind counts a request. -/
theorem Installed.exists_count {i j caller : Nat} {repository : ρ}
    {cache : SchemaCache} (h : H.Installed j caller repository cache)
    (hji : j < i) (hbound : Event.bound caller (.ok ()) ∈ H.events i) :
    ∃ c, j < c ∧ c < i ∧ H.steps[c]? = some (.caller caller .count) := by
  by_contra hnone
  have hcount : ∀ c, j < c → c < i →
      H.steps[c]? ≠ some (.caller caller .count) := by
    intro c hjc hci hc
    exact hnone ⟨c, hjc, hci, hc⟩
  obtain ⟨_, hrequesting⟩ := h.requesting hji hcount
  obtain ⟨label, hlabel⟩ := H.exists_step_of_mem_events hbound
  obtain ⟨_, hsignalling⟩ :=
    Worker.signalling_of_bound_mem (H.step_worker hlabel) hbound
  rw [hrequesting] at hsignalling
  cases hsignalling

/-- As long as a cache is the published one, a refresh that begins is for it
and for the repository it comes from. -/
theorem Installed.assignment? {b j n caller : Nat} {repository : ρ}
    {cache : SchemaCache} (h : H.Installed j caller repository cache)
    (hjb : j < b) (hbn : b ≤ n) (hn : n ≤ H.steps.length)
    (hcache : (H.worker n).cache? = some cache) :
    (H.worker b).assignment? =
      some ⟨repository, cache.topology.schemas, cache.generation⟩ := by
  have hb : b ≤ H.steps.length := Nat.le_trans hbn hn
  obtain ⟨found, hfound⟩ : ∃ found, (H.worker b).cache? = some found := by
    obtain ⟨installed, hmem, _⟩ := exists_mem_of_install hjb h.step
    exact ⟨_, List.head?_eq_some_head (List.ne_nil_of_mem hmem)⟩
  obtain ⟨hnumber, _, _, source, _, _, hbound⟩ :=
    (H.published hb).newest found hfound
  have hwork : (H.worker b).assignment? =
      some ⟨source, found.topology.schemas, found.generation⟩ := by
    simp [Worker.assignment?, hbound, hfound]
  have hgeneration : cache.generation = found.generation := by
    have hnow := ((H.published hn).newest cache hcache).1
    have hfirst := H.generation_le (Nat.succ_le_of_lt hjb)
    have hlast := H.generation_le hbn
    rw [h.generation_succ] at hfirst
    omega
  rw [hwork, h.assignment_eq hb hwork hgeneration]

/-- Whoever is told that the worker is ready can rely on a completed refresh
that read the number of requests after every request counted until then. Of
every bind that has returned and whose cache is still published, that refresh
has finished the columns and the foreign keys. -/
theorem exists_refresh_of_ready {n asker : Nat}
    (hready : Event.ready asker true ∈ H.events n) :
    ∃ refresh : H.Refresh, refresh.completed < n ∧
      (∀ i < n, ∀ caller, H.steps[i]? = some (.caller caller .count) →
        i < refresh.counted) ∧
      ∀ i j caller repository cache, j < i → i < n →
        H.Installed j caller repository cache →
        Event.bound caller (.ok ()) ∈ H.events i →
        (H.worker n).cache? = some cache →
        H.Finished refresh.begun
          ⟨repository, cache.topology.schemas, cache.generation⟩
          refresh.completed := by
  obtain ⟨label, hlabel⟩ := H.exists_step_of_mem_events hready
  have hn := H.le_length_of_step hlabel
  have hcomparing :=
    Worker.readRequested_of_ready_mem (H.step_worker hlabel) hready
  obtain ⟨refresh, hcompleted, hrequested, hthorough⟩ :=
    (H.covering hn).remembered asker _ hcomparing
  have hcounts : ∀ i < n, ∀ caller,
      H.steps[i]? = some (.caller caller .count) → i < refresh.counted := by
    intro i hin caller hcount
    -- A count after the reading would have made the two numbers differ.
    by_contra hnot
    have hbefore := H.requested_le (Nat.le_of_not_lt hnot)
    have hafter := H.requested_le (Nat.succ_le_of_lt hin)
    rw [Worker.requested_of_count (H.step_worker hcount)] at hafter
    omega
  refine ⟨refresh, hcompleted, hcounts, ?_⟩
  intro i j caller repository cache hji hin hinstalled hbound hcache
  obtain ⟨c, hjc, hci, hcount⟩ := hinstalled.exists_count hji hbound
  have hcounted := hcounts c (Nat.lt_trans hci hin) caller hcount
  have hbegun := refresh.counted_lt
  have hlt := refresh.begun_lt
  exact hthorough _
    (hinstalled.assignment? (by omega) (by omega) hn hcache)

namespace ReadinessWitness

/-- Caller 0 binds a repository, and caller 2 asks for readiness when the
refresh is complete. Between the two looks of caller 2 another request comes
in, which is only counted afterwards. -/
def steps : List (Label String) :=
  [.caller 0 (.bind "app"),
    .caller 0 (.answered .currentDatabase (.ok "app")),
    .caller 0 (.answered .databases (.error (.notImplemented "databases"))),
    .caller 0 (.answered .currentSchema (.ok "main")),
    .caller 0 (.answered .schemas (.ok ["main"])),
    .caller 0 (.answered .schemaTables (.ok [("main", ["users"])])),
    .caller 0 .install, .caller 0 .count, .caller 0 .send,
    .loop .take, .loop .readRequests, .loop .begin,
    .loop (.answered .databaseColumns (.ok [])), .loop .writeColumns,
    .loop (.answered (.schemaForeignKeys "main") (.ok [])),
    .loop .writeForeignKeys, .loop .countRun, .loop .complete,
    .caller 2 .readCompleted, .caller 3 .request, .caller 2 .readRequested,
    .caller 3 .count]

def history : History String := ⟨steps, rfl⟩

/-- What caller 0 has installed. -/
def cache : SchemaCache where
  generation := 1
  topology := Topology.ofAnswers (some "app") [] "main" ["main"]
    [("main", ["users"])]

theorem installed_cache : history.Installed 6 0 "app" cache :=
  ⟨rfl, rfl, rfl⟩

theorem exists_refresh_of_ready_history :
    Event.ready 2 true ∈ history.events 20 ∧
      Event.bound 0 (.ok ()) ∈ history.events 8 ∧
      (history.worker 20).cache? = some cache ∧
      ∃ refresh : history.Refresh, refresh.completed < 20 ∧
        7 < refresh.counted ∧
        history.Finished refresh.begun ⟨"app", ["main"], 1⟩
          refresh.completed := by
  have hready : Event.ready 2 true ∈ history.events 20 := .head _
  have hbound : Event.bound 0 (.ok ()) ∈ history.events 8 := .head _
  have hcache : (history.worker 20).cache? = some cache := rfl
  obtain ⟨refresh, hcompleted, hcounts, hfinished⟩ :=
    exists_refresh_of_ready hready
  exact ⟨hready, hbound, hcache, refresh, hcompleted,
    hcounts 7 (by decide) 0 rfl,
    hfinished 8 6 0 "app" cache (by decide) (by decide) installed_cache hbound
      hcache⟩

end ReadinessWitness

end History

end SchemaScope

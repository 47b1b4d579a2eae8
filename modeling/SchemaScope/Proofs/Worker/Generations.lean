import Mathlib.Data.List.Nodup
import SchemaScope.Proofs.Worker.Detail

/-!
The numbers of caches. Caches are installed one after the other, whatever comes
in between, and are numbered in that order. A cache that has been replaced stays
as it is. Main statement: numbers have no gaps, the bound repository is the one
that has told the topology of the published cache, and nothing is written into a
cache once there is a newer one.
-/

namespace SchemaScope

/-- A step that installs a cache. -/
def Label.isInstall {ρ : Type} : Label ρ → Bool
  | .caller _ .install => true
  | _ => false

/-- What a step has answered a caller. -/
def Label.replyTo? {ρ : Type} (id : Nat) : Label ρ → Option Inquiry.Reply
  | .caller other (.answered call outcome) =>
    if other = id then some ⟨call, outcome⟩ else none
  | _ => none

theorem Label.isInstall_iff {ρ : Type} {label : Label ρ} :
    label.isInstall = true ↔ ∃ id, label = .caller id .install := by
  constructor
  · intro h
    unfold isInstall at h
    split at h
    · exact ⟨_, rfl⟩
    · cases h
  · rintro ⟨id, rfl⟩
    rfl

theorem Label.replyTo?_of_ne {ρ : Type} {label : Label ρ} {id : Nat}
    (h : ∀ move, label ≠ .caller id move) : label.replyTo? id = none := by
  unfold replyTo?
  split
  · rename_i other call outcome
    exact if_neg fun heq => h (.answered call outcome) (by rw [heq])
  · rfl

namespace Worker

variable {ρ : Type} {w w' : Worker ρ} {events : List Event}

/-- What is written goes into the published cache or nowhere. -/
theorem tail_updateCache (w : Worker ρ) (generation : Nat)
    (change : SchemaCache → SchemaCache) :
    (w.updateCache generation change).caches.tail = w.caches.tail := by
  unfold updateCache
  split
  · rename_i cache older hcaches
    split
    · rw [hcaches]
      rfl
    · rfl
  · rfl

theorem LoopMove.tail_caches {move : LoopStep}
    (h : LoopMove w move w' events) : w'.caches.tail = w.caches.tail := by
  cases h with
  | writeColumns requests work result =>
      cases result with
      | ok columns => exact tail_updateCache w work.generation _
      | error e => rfl
  | writeForeignKeys requests work result =>
      cases result with
      | ok foreignKeys => exact tail_updateCache w work.generation _
      | error e => rfl
  | _ => rfl

/-- A cache that has been replaced stays as it is. -/
theorem mem_tail_of_step {label : Label ρ} {cache : SchemaCache}
    (h : w.step label = some (w', events)) (hcache : cache ∈ w.caches.tail) :
    cache ∈ w'.caches.tail := by
  cases label with
  | caller id move =>
      have hmove := callerMove_of_step h
      by_cases hinstall : move = .install
      · subst hinstall
        cases hmove with
        | install => exact List.mem_of_mem_tail hcache
      · rw [(hmove.published_eq hinstall).2.1]
        exact hcache
  | loop move =>
      rw [(loopMove_of_step h).tail_caches]
      exact hcache
  | drop =>
      rw [(eq_of_drop h).1]
      exact hcache

/-- Whoever is asking a repository came with it, or has gone on from one
question to the next. -/
theorem binding_cases {label : Label ρ} {id : Nat} {repository : ρ}
    {inquiry : Inquiry Topology} (h : w.step label = some (w', events))
    (hid : w'.callers.get? id = some (.binding repository inquiry)) :
    (label = .caller id (.bind repository) ∧ inquiry = Topology.inquiry) ∨
      ∃ before,
        w.callers.get? id = some (.binding repository before) ∧
        ((label.replyTo? id = none ∧ before = inquiry) ∨
          ∃ call outcome, label.replyTo? id = some ⟨call, outcome⟩ ∧
            before.resume? call outcome = some inquiry) := by
  by_cases hlabel : ∃ move, label = .caller id move
  · obtain ⟨move, rfl⟩ := hlabel
    cases callerMove_of_step h with
    | refuse _ hnone | unready hnone | stopAgain hnone =>
        rw [hnone] at hid
        cases hid
    | bind =>
        rw [get?_goOn, if_pos rfl] at hid
        cases hid
        exact .inl ⟨rfl, rfl⟩
    | answered source before call outcome next hbefore hnext =>
        rw [get?_goOn, if_pos rfl] at hid
        cases hid
        exact .inr ⟨before, hbefore, .inr ⟨call, outcome,
          by simp [Label.replyTo?], hnext⟩⟩
    | brokenOff | giveUp | send | readRequested | dismiss =>
        rw [get?_leave, if_pos rfl] at hid
        cases hid
    | _ =>
        rw [get?_goOn, if_pos rfl] at hid
        cases hid
  · have hother := not_exists.1 hlabel
    rw [get?_eq_of_step h hother] at hid
    exact .inr ⟨inquiry, hid, .inl ⟨Label.replyTo?_of_ne hother, rfl⟩⟩

/-- A repository is bound as soon as there is a cache, and not before. -/
theorem Reachable.isSome_bound (h : w.Reachable) :
    w.bound.isSome = w.cache?.isSome := by
  refine h.induction (I := fun w => w.bound.isSome = w.cache?.isSome) rfl ?_
  intro w w' label events hstep hw
  rcases published_cases hstep with
    ⟨_, repository, _, _, _, hbound, _, hcaches⟩ | ⟨hbound, _, hfixed, _⟩
  · rw [hbound, cache?, hcaches]
    rfl
  · have hhead : w'.cache?.map SchemaCache.fixed =
        w.cache?.map SchemaCache.fixed := by
      rw [cache?, cache?, ← List.head?_map, hfixed, List.head?_map]
    have hsome := congrArg Option.isSome hhead
    rw [Option.isSome_map, Option.isSome_map] at hsome
    rw [hbound, hw, hsome]

end Worker

namespace History

variable {ρ : Type} {H : History ρ}

/-- The number of caches that the first `n` steps install. -/
def installs (H : History ρ) (n : Nat) : Nat :=
  (H.steps.take n).countP Label.isInstall

theorem installs_succ {n : Nat} {label : Label ρ}
    (hlabel : H.steps[n]? = some label) :
    H.installs (n + 1) =
      H.installs n + if label.isInstall then 1 else 0 := by
  rw [installs, installs, List.take_add_one, hlabel, List.countP_append]
  simp

theorem generations_succ {n : Nat} {label : Label ρ}
    (hlabel : H.steps[n]? = some label)
    (h : (H.worker n).generation = H.installs n ∧
      (H.worker n).caches.map (·.generation) =
        (List.range' 1 (H.installs n)).reverse) :
    (H.worker (n + 1)).generation = H.installs (n + 1) ∧
      (H.worker (n + 1)).caches.map (·.generation) =
        (List.range' 1 (H.installs (n + 1))).reverse := by
  obtain ⟨hnumber, hnumbers⟩ := h
  rcases Worker.published_cases (H.step_worker hlabel) with
    ⟨id, _, _, rfl, _, _, hgeneration, hcaches⟩ |
      ⟨_, hgeneration, hfixed, hother⟩
  · have hinstalls : H.installs (n + 1) = H.installs n + 1 :=
      installs_succ hlabel
    constructor
    · rw [hgeneration, hnumber, hinstalls]
    · rw [hcaches, List.map_cons, hnumbers, hnumber, hinstalls,
        List.range'_concat, List.reverse_append]
      simp [Nat.add_comm]
  · have hnot : ¬ label.isInstall = true := by
      intro heq
      obtain ⟨id, hid⟩ := Label.isInstall_iff.1 heq
      exact hother id hid
    have hinstalls : H.installs (n + 1) = H.installs n := by
      rw [installs_succ hlabel, if_neg hnot, Nat.add_zero]
    have hsame : (H.worker (n + 1)).caches.map (·.generation) =
        (H.worker n).caches.map (·.generation) := by
      have hnumbers := congrArg (List.map Prod.fst) hfixed
      rw [List.map_map, List.map_map] at hnumbers
      exact hnumbers
    rw [hgeneration, hsame, hinstalls]
    exact ⟨hnumber, hnumbers⟩

/-- The caches are numbered in the order of their installation, from one and
without a gap. -/
theorem generations (H : History ρ) {n : Nat} (hn : n ≤ H.steps.length) :
    (H.worker n).generation = H.installs n ∧
      (H.worker n).caches.map (·.generation) =
        (List.range' 1 (H.installs n)).reverse := by
  refine H.induction
    (P := fun n => (H.worker n).generation = H.installs n ∧
      (H.worker n).caches.map (·.generation) =
        (List.range' 1 (H.installs n)).reverse) ?_
    (fun _ _ hlabel ih => generations_succ hlabel ih) hn
  rw [H.worker_zero]
  exact ⟨rfl, rfl⟩

theorem nodup_generations (H : History ρ) {n : Nat}
    (hn : n ≤ H.steps.length) :
    ((H.worker n).caches.map (·.generation)).Nodup := by
  rw [(H.generations hn).2]
  exact List.nodup_reverse.2 List.nodup_range'

/-- A cache is known by its number. -/
theorem cacheOf?_eq_some_iff (H : History ρ) {n generation : Nat}
    (hn : n ≤ H.steps.length) {cache : SchemaCache} :
    (H.worker n).cacheOf? generation = some cache ↔
      cache ∈ (H.worker n).caches ∧ cache.generation = generation := by
  constructor
  · intro h
    exact ⟨List.mem_of_find?_eq_some h, by simpa using List.find?_some h⟩
  · rintro ⟨hcache, rfl⟩
    obtain ⟨found, hfound⟩ : ∃ found,
        (H.worker n).cacheOf? cache.generation = some found := by
      rw [← Option.isSome_iff_exists]
      exact List.find?_isSome.2 ⟨cache, hcache, by simp⟩
    have hsame : found = cache :=
      List.inj_on_of_nodup_map (H.nodup_generations hn)
        (List.mem_of_find?_eq_some hfound) hcache
        (by simpa using List.find?_some hfound)
    rw [hfound, hsame]

theorem le_generation (H : History ρ) {n : Nat} (hn : n ≤ H.steps.length)
    {cache : SchemaCache} (hcache : cache ∈ (H.worker n).caches) :
    cache.generation ≤ (H.worker n).generation := by
  obtain ⟨hnumber, hnumbers⟩ := H.generations hn
  have hmem : cache.generation ∈ (H.worker n).caches.map (·.generation) :=
    List.mem_map_of_mem hcache
  rw [hnumbers, List.mem_reverse, List.mem_range'_1] at hmem
  omega

/-- A cache has been replaced if there is a newer one. -/
theorem mem_tail_of_lt (H : History ρ) {n : Nat} (hn : n ≤ H.steps.length)
    {cache newer : SchemaCache} (hcache : cache ∈ (H.worker n).caches)
    (hnewer : newer ∈ (H.worker n).caches)
    (hlt : cache.generation < newer.generation) :
    cache ∈ (H.worker n).caches.tail := by
  have hle := H.le_generation hn hnewer
  have hnewest := (H.published hn).newest
  rw [Worker.cache?] at hnewest
  generalize (H.worker n).caches = caches at hcache hnewest
  cases hcache with
  | head older =>
      have heq := (hnewest cache rfl).1
      omega
  | tail newest holder => exact holder

/-- The answers that a caller is given from step `first` on and before step
`last`. -/
def repliesTo (H : History ρ) (caller first last : Nat) :
    List Inquiry.Reply :=
  ((H.steps.take last).drop first).filterMap (Label.replyTo? caller)

/-- A caller came with a repository at step `i` and has been asking it ever
since. -/
structure Asking (H : History ρ) (i caller : Nat) (repository : ρ)
    (inquiry : Inquiry Topology) (n : Nat) : Prop where
  step : H.steps[i]? = some (.caller caller (.bind repository))
  lt : i < n
  binding : ∀ m, i < m → m ≤ n → ∃ middle,
    (H.worker m).callers.get? caller = some (.binding repository middle)
  answered : Topology.inquiry.resumeAll? (H.repliesTo caller (i + 1) n) =
    some inquiry

theorem exists_asking (H : History ρ) {n : Nat} (hn : n ≤ H.steps.length) :
    ∀ caller repository inquiry,
      (H.worker n).callers.get? caller = some (.binding repository inquiry) →
        ∃ i, H.Asking i caller repository inquiry n := by
  refine H.induction
    (P := fun n => ∀ caller repository inquiry,
      (H.worker n).callers.get? caller = some (.binding repository inquiry) →
        ∃ i, H.Asking i caller repository inquiry n) ?_ ?_ hn
  · intro caller repository inquiry hid
    rw [H.worker_zero] at hid
    cases hid
  · intro n label hlabel ih caller repository inquiry hid
    rcases Worker.binding_cases (H.step_worker hlabel) hid with
      ⟨rfl, rfl⟩ | ⟨before, hbefore, hreply⟩
    · refine ⟨n, hlabel, Nat.lt_succ_self n, ?_, ?_⟩
      · intro m hnm hmn
        obtain rfl : m = n + 1 := by omega
        exact ⟨_, hid⟩
      · rw [repliesTo, H.filterMap_steps_self]
        rfl
    · obtain ⟨i, hi⟩ := ih caller repository before hbefore
      refine ⟨i, hi.step, Nat.lt_succ_of_lt hi.lt, ?_, ?_⟩
      · intro m him hmn
        rcases Nat.lt_or_eq_of_le hmn with hlt | rfl
        · exact hi.binding m him (Nat.le_of_lt_succ hlt)
        · exact ⟨_, hid⟩
      · have hanswered := hi.answered
        rw [repliesTo] at hanswered ⊢
        rw [H.filterMap_steps_succ _ hi.lt hlabel]
        rcases hreply with ⟨hnone, rfl⟩ | ⟨call, outcome, hsome, hnext⟩
        · rw [hnone]
          simpa using hanswered
        · rw [hsome]
          exact Inquiry.resumeAll?_concat hanswered hnext

/-- What is bound has told the topology of what is published. -/
theorem exists_asking_of_bound (H : History ρ) {n : Nat}
    (hn : n ≤ H.steps.length) {repository : ρ}
    (hbound : (H.worker n).bound = some repository) {cache : SchemaCache}
    (hcache : (H.worker n).cache? = some cache) :
    ∃ i j caller, j < n ∧ H.Installed j caller repository cache ∧
      H.Asking i caller repository (.done (.ok cache.topology)) j := by
  obtain ⟨_, j, caller, source, hjn, hinstalled, hsource⟩ :=
    (H.published hn).newest cache hcache
  rw [hbound] at hsource
  cases hsource
  obtain ⟨i, hasking⟩ := H.exists_asking (Nat.le_trans (Nat.le_of_lt hjn) hn)
    caller repository _ hinstalled.source
  exact ⟨i, j, caller, hjn, hinstalled, hasking⟩

/-- The cache of a number keeps its topology, and it keeps its detail too once
there is a newer one. -/
theorem exists_cacheOf_of_le (H : History ρ) {m n : Nat} (hmn : m ≤ n)
    (hn : n ≤ H.steps.length) {generation : Nat} {cache : SchemaCache}
    (hcache : (H.worker m).cacheOf? generation = some cache) :
    ∃ later, (H.worker n).cacheOf? generation = some later ∧
      later.topology = cache.topology ∧
      ((∃ newer ∈ (H.worker m).caches, generation < newer.generation) →
        later = cache) := by
  have hm := Nat.le_trans hmn hn
  obtain ⟨hmem, rfl⟩ := (H.cacheOf?_eq_some_iff hm).1 hcache
  by_cases hnewer : ∃ newer ∈ (H.worker m).caches,
      cache.generation < newer.generation
  · obtain ⟨newer, hnewer, hlt⟩ := hnewer
    have htail := H.kept_of_le (P := fun w => cache ∈ w.caches.tail)
      Worker.mem_tail_of_step hmn (H.mem_tail_of_lt hm hmem hnewer hlt)
    exact ⟨cache,
      (H.cacheOf?_eq_some_iff hn).2 ⟨List.mem_of_mem_tail htail, rfl⟩, rfl,
      fun _ => rfl⟩
  · obtain ⟨later, hlater, hfixed⟩ := exists_mem_of_le hmn hmem
    obtain ⟨hnumber, htopology⟩ := Prod.mk.inj hfixed
    exact ⟨later, (H.cacheOf?_eq_some_iff hn).2 ⟨hlater, hnumber⟩, htopology,
      fun h => absurd h hnewer⟩

/-- Installations are consistent. The caches are numbered from one without a
gap, the newest first, and each is published under its number. There is a bound
repository as soon as there is a cache, and its answers to the caller that has
installed the published cache have led to the topology of that cache. A cache
never changes its topology, and nothing of it changes once there is a newer
one. -/
theorem installs_consistent (H : History ρ) {m n : Nat} (hmn : m ≤ n)
    (hn : n ≤ H.steps.length) :
    ((H.worker n).caches.map (·.generation) =
        (List.range' 1 (H.installs n)).reverse ∧
      ∀ j caller, H.steps[j]? = some (.caller caller .install) →
        ∃ cache, (H.worker (j + 1)).cache? = some cache ∧
          cache.generation = H.installs (j + 1)) ∧
      ((H.worker n).bound.isSome = (H.worker n).cache?.isSome ∧
        ∀ repository cache, (H.worker n).bound = some repository →
          (H.worker n).cache? = some cache →
          ∃ i j caller, j < n ∧ H.Installed j caller repository cache ∧
            H.Asking i caller repository (.done (.ok cache.topology)) j) ∧
      ∀ generation cache,
        (H.worker m).cacheOf? generation = some cache →
          ∃ later, (H.worker n).cacheOf? generation = some later ∧
            later.topology = cache.topology ∧
            ((∃ newer ∈ (H.worker m).caches, generation < newer.generation) →
              later = cache) := by
  refine ⟨⟨(H.generations hn).2, ?_⟩, ⟨?_, ?_⟩, ?_⟩
  · intro j caller hlabel
    obtain ⟨hlt, _⟩ := List.getElem?_eq_some_iff.1 hlabel
    have hnumber := (H.generations hlt).1
    rcases Worker.published_cases (H.step_worker hlabel) with
      ⟨_, _, topology, _, _, _, hgeneration, hcaches⟩ | ⟨_, _, _, hother⟩
    · refine ⟨_, congrArg List.head? hcaches, ?_⟩
      exact hgeneration.symm.trans hnumber
    · exact absurd rfl (hother caller)
  · exact (H.reachable_worker n).isSome_bound
  · intro repository cache hbound hcache
    exact H.exists_asking_of_bound hn hbound hcache
  · intro generation cache hcache
    exact H.exists_cacheOf_of_le hmn hn hcache

namespace GenerationWitness

open DetailWitness

/-- Two binds ask their repositories at the same time, and the one that came
first installs its cache last. A refresh for the cache that was installed first
is at work then, and learns what is not written any more. -/
def steps : List (Label String) :=
  (bind 0 "slow").take 5 ++ bind 1 "quick" ++ firstHalf "quick" ++
    (bind 0 "slow").drop 5 ++ secondHalf "quick"

def history : History String := ⟨steps, rfl⟩

/-- The cache that has been replaced in the middle of a refresh. -/
def replaced : SchemaCache where
  generation := 1
  topology := topology "quick"
  columns := ColumnIndex.ofColumns [column "quick"]

theorem installs_consistent_crossed :
    21 ≤ 27 ∧ 27 ≤ history.steps.length ∧
      (history.worker 27).caches.map (·.generation) = [2, 1] ∧
      (history.worker 27).bound = some "slow" ∧
      (∃ i j caller, j < 27 ∧ history.Asking i caller "slow"
        (.done (.ok (topology "slow"))) j) ∧
      (history.worker 27).cacheOf? 1 = some replaced := by
  have hle : 21 ≤ 27 := by decide
  have hlength : 27 ≤ history.steps.length := by decide
  obtain ⟨⟨hnumbers, _⟩, ⟨_, hsource⟩, hkept⟩ :=
    installs_consistent history hle hlength
  obtain ⟨i, j, caller, hj, _, hasking⟩ := hsource "slow" _ rfl rfl
  obtain ⟨later, hlater, _, hsame⟩ := hkept 1 replaced rfl
  have hnewer : ∃ newer ∈ (history.worker 21).caches, 1 < newer.generation :=
    ⟨_, .head _, by decide⟩
  exact ⟨hle, hlength, hnumbers, rfl, ⟨i, j, caller, hj, hasking⟩,
    hsame hnewer ▸ hlater⟩

end GenerationWitness

end History

end SchemaScope

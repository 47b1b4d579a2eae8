import Mathlib.Tactic.IntervalCases
import SchemaScope.Proofs.Worker.Settling
import SchemaScope.Proofs.Worker.Stopping

/-!
Requests coalesce. However many requests come while a refresh is in flight, one
more refresh answers them all; and once the worker has been stopped, no refresh
follows the one in flight.
-/

namespace SchemaScope

namespace Worker

variable {ρ : Type} {w w' : Worker ρ} {events : List Event}

namespace LoopMove

variable {step : LoopStep}

/-- The loop comes to wait only by declaring a refresh complete. -/
theorem inFlight_or_isOver (h : LoopMove w step w' events)
    (hstep : step ≠ .complete) :
    w'.loop.inFlight = true ∨ w'.loop.isOver = true := by
  cases h with
  | complete => exact absurd rfl hstep
  | exit | columnsBroken | foreignKeysBroken | unfilable => exact .inr rfl
  | begin requests =>
      exact .inl
        (LoopPhase.inFlight_of_isUncounted
          (w.isUncounted_beginRefresh requests))
  | _ => exact .inl rfl

/-- A refresh begins with taking a signal. -/
theorem inFlight_of_ne_take (h : LoopMove w step w' events)
    (hstep : step ≠ .take) (hflight : w'.loop.inFlight = true) :
    w.loop.inFlight = true := by
  cases h with
  | take => exact absurd rfl hstep
  | exit | complete => cases hflight
  | columnsBroken _ _ _ _ hloop | foreignKeysBroken _ _ _ _ hloop
  | unfilable _ _ hloop | readRequests hloop | begin _ hloop
  | columnsAnswered _ _ _ _ _ _ hloop | writeColumns _ _ _ hloop
  | foreignKeysAnswered _ _ _ _ _ _ hloop | writeForeignKeys _ _ _ hloop
  | countRun _ hloop =>
      rw [hloop]
      rfl

end LoopMove

theorem inFlight_or_isOver_of_step {label : Label ρ}
    (h : w.step label = some (w', events)) (hlabel : label ≠ .loop .complete)
    (hflight : w.loop.inFlight = true) :
    w'.loop.inFlight = true ∨ w'.loop.isOver = true := by
  cases label with
  | caller id move => exact .inl ((callerMove_of_step h).loop_eq ▸ hflight)
  | loop step =>
      exact (loopMove_of_step h).inFlight_or_isOver
        fun heq => hlabel (heq ▸ rfl)
  | drop => exact .inl ((eq_of_drop h).1 ▸ hflight)

theorem inFlight_of_step {label : Label ρ}
    (h : w.step label = some (w', events)) (hlabel : label ≠ .loop .take)
    (hflight : w'.loop.inFlight = true) : w.loop.inFlight = true := by
  cases label with
  | caller id move => exact (callerMove_of_step h).loop_eq ▸ hflight
  | loop step =>
      exact (loopMove_of_step h).inFlight_of_ne_take
        (fun heq => hlabel (heq ▸ rfl)) hflight
  | drop =>
      rw [(eq_of_drop h).1] at hflight
      exact hflight

/-- As long as a refresh is in flight, a signal that is there or is going to
be left stays so. -/
theorem signalling_of_step {label : Label ρ}
    (h : w.step label = some (w', events)) (hflight : w.loop.inFlight = true)
    (hw : w.Signalling) : w'.Signalling := by
  cases label with
  | caller id move =>
      have hmove := callerMove_of_step h
      by_cases hsend : move = .send
      · subst hsend
        exact .inl (hmove.signal_of_send (LoopPhase.isOver_of_inFlight hflight))
      · exact hmove.signalling hsend hw
  | loop step =>
      have hmove := loopMove_of_step h
      exact hmove.signalling (hmove.ne_take hflight) hw
  | drop =>
      rw [(eq_of_drop h).1]
      exact hw

theorem loop_of_complete (h : w.step (.loop .complete) = some (w', events)) :
    w.loop.inFlight = true ∧ w'.loop = .waiting := by
  cases loopMove_of_step h with
  | complete requests hloop =>
      rw [hloop]
      exact ⟨rfl, rfl⟩

theorem shutdown_of_take (h : w.step (.loop .take) = some (w', events)) :
    w.shutdown = false := by
  cases loopMove_of_step h with
  | take _ _ hshutdown => exact hshutdown

theorem signalling_of_count {id : Nat}
    (h : w.step (.caller id .count) = some (w', events)) : w'.Signalling := by
  cases callerMove_of_step h with
  | count installed hid =>
      exact .inr ⟨id, installed, (get?_goOn _ id id _).trans (if_pos rfl)⟩

end Worker

namespace History

variable {ρ : Type} {H : History ρ}

/-- A refresh is in flight before step `m`, and step `c` declares it complete.
Between the two, requests have been counted, and no request that has been
counted by then has still to leave its signal. -/
structure Burst (H : History ρ) (m c : Nat) : Prop where
  flight : (H.worker m).loop.inFlight = true
  completes : H.steps[c]? = some (.loop .complete)
  /-- No refresh is declared complete in the meantime. -/
  first : ∀ k, m ≤ k → k < c → H.steps[k]? ≠ some (.loop .complete)
  counts : ∃ i caller, m ≤ i ∧ i < c ∧
    H.steps[i]? = some (.caller caller .count)
  delivered : (H.worker c).Delivered

/-- No request is counted from one step up to another. -/
def NoCount (H : History ρ) (first last : Nat) : Prop :=
  ∀ i, first ≤ i → i < last → ∀ caller,
    H.steps[i]? ≠ some (.caller caller .count)

namespace Burst

variable {m c : Nat}

theorem inFlight (h : H.Burst m c) {k : Nat} (hmk : m ≤ k) (hkc : k ≤ c) :
    (H.worker k).loop.inFlight = true := by
  have hcases : (H.worker k).loop.inFlight = true ∨
      (H.worker k).loop.isOver = true := by
    refine H.kept_between
      (P := fun w => w.loop.inFlight = true ∨ w.loop.isOver = true) hmk ?_
      (.inl h.flight)
    rintro i label hmi hik hlabel (hflight | hover)
    · refine Worker.inFlight_or_isOver_of_step (H.step_worker hlabel) ?_ hflight
      rintro rfl
      exact h.first i hmi (Nat.lt_of_lt_of_le hik hkc) hlabel
    · exact .inr (Worker.isOver_of_step (H.step_worker hlabel) hover)
  rcases hcases with hflight | hover
  · exact hflight
  · -- A loop that is over would not declare anything complete.
    have hlast := H.kept_of_le Worker.isOver_of_step hkc hover
    have hcomplete := (Worker.loop_of_complete (H.step_worker h.completes)).1
    rw [LoopPhase.isOver_of_inFlight hcomplete] at hlast
    cases hlast

theorem signalling (h : H.Burst m c) : (H.worker c).Signalling := by
  obtain ⟨i, caller, hmi, hic, hcount⟩ := h.counts
  refine H.kept_between (P := Worker.Signalling) hic ?_
    (Worker.signalling_of_count (H.step_worker hcount))
  intro k label hik hkc hlabel
  exact Worker.signalling_of_step (H.step_worker hlabel)
    (h.inFlight (Nat.le_trans hmi (Nat.le_of_succ_le hik)) (Nat.le_of_lt hkc))

/-- The loop waits after the refresh, with a signal there for it. -/
theorem rearmed (h : H.Burst m c) :
    (H.worker (c + 1)).loop = .waiting ∧ (H.worker (c + 1)).signal = true ∧
      (H.worker (c + 1)).Delivered := by
  have hmove := Worker.loopMove_of_step (H.step_worker h.completes)
  have hsignal : (H.worker c).signal = true := by
    rcases h.signalling with hsignal | ⟨id, installed, hid⟩
    · exact hsignal
    · exact absurd hid (h.delivered id installed)
  exact ⟨(Worker.loop_of_complete (H.step_worker h.completes)).2,
    (hmove.signal_eq nofun).trans hsignal, h.delivered.loopMove hmove⟩

/-- From then on there is one refresh to be made, as long as no request is
counted. -/
theorem accepted (h : H.Burst m c) {n : Nat} (hcn : c + 1 ≤ n)
    (hquiet : H.NoCount (c + 1) n) :
    (H.worker n).Delivered ∧
      (H.worker n).accepted ≤ (H.worker (c + 1)).runs + 1 ∧
      ((H.worker n).loop ≠ .crashed →
        (H.worker n).accepted = (H.worker (c + 1)).runs + 1) := by
  obtain ⟨hloop, hsignal, hdelivered⟩ := h.rearmed
  have hone : (H.worker (c + 1)).accepted = (H.worker (c + 1)).runs + 1 := by
    rw [Worker.accepted, hloop, hsignal]
    rfl
  refine H.kept_between
    (P := fun w => w.Delivered ∧ w.accepted ≤ (H.worker (c + 1)).runs + 1 ∧
      (w.loop ≠ .crashed → w.accepted = (H.worker (c + 1)).runs + 1)) hcn ?_
    ⟨hdelivered, Nat.le_of_eq hone, fun _ => hone⟩
  rintro k label hck hkn hlabel ⟨hbefore, hle, heq⟩
  have hcount : ∀ id, label ≠ .caller id .count := by
    rintro id rfl
    exact hquiet k hck hkn id hlabel
  obtain ⟨hafter, hfewer, hsame⟩ :=
    hbefore.accepted_of_step (H.step_worker hlabel) hcount
  refine ⟨hafter, Nat.le_trans hfewer hle, fun hgoes => ?_⟩
  obtain ⟨hwent, hsame⟩ := hsame hgoes
  exact hsame.trans (heq hwent)

theorem runs_le (h : H.Burst m c) {n : Nat} (hcn : c + 1 ≤ n)
    (hquiet : H.NoCount (c + 1) n) :
    (H.worker n).runs ≤ (H.worker (c + 1)).runs + 1 := by
  obtain ⟨_, hle, _⟩ := h.accepted hcn hquiet
  unfold Worker.accepted at hle
  omega

/-- When the loop is at rest, the one refresh has been made, and the worker is
ready. -/
theorem runs_eq_of_rest (h : H.Burst m c) {n : Nat} (hcn : c + 1 ≤ n)
    (hquiet : H.NoCount (c + 1) n) (hrest : (H.worker n).AtRest) :
    (H.worker n).runs = (H.worker (c + 1)).runs + 1 ∧
      (H.worker n).isReady = true := by
  obtain ⟨hdelivered, _, heq⟩ := h.accepted hcn hquiet
  have hruns : (H.worker n).runs = (H.worker (c + 1)).runs + 1 := by
    have heq := heq (by rw [hrest.loop]; nofun)
    rw [Worker.accepted, hrest.loop, hrest.signal] at heq
    exact heq
  have hreachable := H.reachable_worker n
  have hcompleted :=
    hreachable.losesNone.completed_eq hrest.loop hrest.signal hdelivered
  have hrequested := hreachable.runs_le_requested
  have hne : (H.worker n).requested ≠ 0 := by omega
  refine ⟨hruns, ?_⟩
  simp [Worker.isReady, hcompleted, hne]

theorem comesToRest (h : H.Burst m c)
    (hdismissed : (H.worker (c + 1)).dismissed = false) :
    (H.worker (c + 1)).ComesToRest := by
  obtain ⟨hloop, _, hdelivered⟩ := h.rearmed
  have hundisturbed : (H.worker (c + 1)).Undisturbed :=
    ⟨H.reachable_worker (c + 1), hdismissed, hdelivered⟩
  exact hundisturbed.comesToRest hloop

end Burst

namespace StopReturned

variable {m : Nat}

theorem ne_take (h : H.StopReturned m) {n : Nat} (hmn : m ≤ n) :
    H.steps[n]? ≠ some (.loop .take) := by
  intro hlabel
  have hopen := Worker.shutdown_of_take (H.step_worker hlabel)
  rw [(h.flags hmn).2] at hopen
  cases hopen

theorem inFlight (h : H.StopReturned m) {k n : Nat} (hmk : m ≤ k)
    (hkn : k ≤ n) (hflight : (H.worker n).loop.inFlight = true) :
    (H.worker k).loop.inFlight = true := by
  refine H.kept_between (P := fun w => w.loop.inFlight = true →
    (H.worker k).loop.inFlight = true) hkn ?_ (fun hfirst => hfirst) hflight
  intro i label hki _ hlabel ih hlater
  refine ih (Worker.inFlight_of_step (H.step_worker hlabel) ?_ hlater)
  rintro rfl
  exact h.ne_take (Nat.le_trans hmk hki) hlabel

/-- After a refresh there would have to be a signal taken for another one. -/
theorem not_lt_of_complete (h : H.StopReturned m) {n k : Nat} (hmn : m ≤ n)
    (hn : H.steps[n]? = some (.loop .complete))
    (hk : H.steps[k]? = some (.loop .complete)) : ¬ n < k := by
  intro hnk
  have hlast := (Worker.loop_of_complete (H.step_worker hk)).1
  have hflight := h.inFlight (Nat.le_succ_of_le hmn) hnk hlast
  rw [(Worker.loop_of_complete (H.step_worker hn)).2] at hflight
  cases hflight

end StopReturned

/-- There are no more refreshes than requests, and the number of complete
requests never passes that of all requests and never goes back. After a burst
of requests at most one more refresh is made as long as no other request is
counted; when the loop is at rest it has been made, and the worker is ready,
and unless the worker is stopped the loop does come to rest. Once the worker
has been stopped, no signal is taken any more, and no refresh is declared
complete but one that was in flight when the stop returned. -/
theorem refreshes_coalesce (H : History ρ) :
    (∀ m n, m ≤ n → (H.worker n).runs ≤ (H.worker n).requested ∧
      (H.worker n).completed ≤ (H.worker n).requested ∧
      (H.worker m).completed ≤ (H.worker n).completed) ∧
    (∀ m c, H.Burst m c →
      (∀ n, c + 1 ≤ n → H.NoCount (c + 1) n →
        (H.worker n).runs ≤ (H.worker (c + 1)).runs + 1 ∧
        ((H.worker n).AtRest →
          (H.worker n).runs = (H.worker (c + 1)).runs + 1 ∧
            (H.worker n).isReady = true)) ∧
      ((H.worker (c + 1)).dismissed = false →
        (H.worker (c + 1)).ComesToRest)) ∧
    ∀ m n, H.StopReturned m → m ≤ n →
      H.steps[n]? ≠ some (.loop .take) ∧
      (H.steps[n]? = some (.loop .complete) →
        (∀ k, m ≤ k → k ≤ n → (H.worker k).loop.inFlight = true) ∧
        ∀ k, m ≤ k → H.steps[k]? = some (.loop .complete) → k = n) := by
  refine ⟨?_, ?_, ?_⟩
  · intro m n hmn
    have hreachable := H.reachable_worker n
    exact ⟨hreachable.runs_le_requested, hreachable.bounded.completed_le,
      H.completed_le hmn⟩
  · intro m c hburst
    refine ⟨fun n hcn hquiet => ?_, hburst.comesToRest⟩
    exact ⟨hburst.runs_le hcn hquiet, hburst.runs_eq_of_rest hcn hquiet⟩
  · intro m n hstop hmn
    refine ⟨hstop.ne_take hmn, fun hcomplete => ⟨?_, ?_⟩⟩
    · intro k hmk hkn
      exact hstop.inFlight hmk hkn
        (Worker.loop_of_complete (H.step_worker hcomplete)).1
    · intro k hmk hk
      have hle := hstop.not_lt_of_complete hmn hcomplete hk
      have hge := hstop.not_lt_of_complete hmk hk hcomplete
      omega

namespace BurstWitness

def request (id : Nat) : List (Label Unit) :=
  [.request, .count, .send].map (.caller id)

def stop (id : Nat) : List (Label Unit) :=
  [.stop, .mark, .dismiss].map (.caller id)

/-- The rest of a refresh, after its signal has been taken. There is nothing to
ask about. -/
def refresh : List (Label Unit) :=
  [.readRequests, .begin, .countRun, .complete].map .loop

/-- Two requests come while a refresh is in flight, the second one finding the
signal of the first; one more refresh is made. In the middle of a third one the
worker is stopped, and then there is another request. -/
def history : History Unit :=
  ⟨request 0 ++ [.loop .take] ++ request 1 ++ request 2 ++ refresh ++
    [.loop .take] ++ refresh ++ request 3 ++ [.loop .take] ++ stop 4 ++
    request 5 ++ refresh, rfl⟩

theorem burst : history.Burst 4 13 where
  flight := rfl
  completes := rfl
  first := by
    intro k hmk hkc hlabel
    interval_cases k <;> cases hlabel
  counts := ⟨5, 1, by decide, by decide, rfl⟩
  delivered := nofun

theorem refreshes_coalesce_burst :
    history.Burst 4 13 ∧ (history.worker 13).requested = 3 ∧
      (history.worker 19).runs = (history.worker 14).runs + 1 ∧
      (history.worker 19).isReady = true ∧
      (history.worker 14).ComesToRest ∧
      history.StopReturned 26 ∧ (history.worker 29).signal = true ∧
      history.steps[32]? = some (.loop .complete) ∧
      (history.worker 26).loop.inFlight = true ∧
      (history.worker 14).completed ≤ (history.worker 33).completed ∧
      (history.worker 33).runs ≤ (history.worker 33).requested := by
  obtain ⟨hbounds, hbursts, hstops⟩ := refreshes_coalesce history
  have hquiet : history.NoCount 14 19 := by
    intro i hfirst hlast caller hlabel
    interval_cases i <;> cases hlabel
  obtain ⟨hruns, hcomes⟩ := hbursts 4 13 burst
  obtain ⟨hone, hready⟩ := (hruns 19 (by decide) hquiet).2 ⟨rfl, rfl⟩
  have hstop : history.StopReturned 26 := ⟨25, by decide, 4, rfl⟩
  obtain ⟨_, hcomplete⟩ := hstops 26 32 hstop (by decide)
  obtain ⟨hflight, _⟩ := hcomplete rfl
  obtain ⟨hrequested, _, hcompleted⟩ := hbounds 14 33 (by decide)
  exact ⟨burst, rfl, hone, hready, hcomes rfl, hstop, rfl, rfl,
    hflight 26 (by decide) (by decide), hcompleted, hrequested⟩

end BurstWitness

end History

end SchemaScope

import SchemaScope.Proofs.Inquiry
import SchemaScope.Proofs.Worker.Installation

/-!
Refreshes in a history. A refresh is traced from the step that reads the number
of requests through the one that finds repository and cache, the answers it is
given and the two writes. Main statement: at all times the loop is where the
steps of its latest refresh have led.
-/

namespace SchemaScope

/-- What the loop is asking about. -/
def LoopPhase.assignment? {ρ : Type} : LoopPhase ρ → Option (Assignment ρ)
  | columns _ work _ | foreignKeys _ work _ => some work
  | _ => none

/-- What a step has answered the loop. -/
def Label.reply? {ρ : Type} : Label ρ → Option Inquiry.Reply
  | .loop (.answered call outcome) => some ⟨call, outcome⟩
  | _ => none

namespace Worker

variable {ρ : Type}

/-- What a refresh that begins now is for: the bound repository and the
published cache. -/
def assignment? (w : Worker ρ) : Option (Assignment ρ) :=
  match w.bound, w.cache? with
  | some repository, some cache =>
      some ⟨repository, cache.topology.schemas, cache.generation⟩
  | _, _ => none

theorem beginRefresh_eq (w : Worker ρ) (requests : Nat) :
    w.beginRefresh requests =
      match w.assignment? with
      | some work => .columns requests work (ColumnIndex.inquiry work.schemas)
      | none => .refreshed requests := by
  unfold beginRefresh assignment?
  cases w.bound with
  | none => rfl
  | some repository => cases w.cache? <;> rfl

end Worker

namespace History

variable {ρ : Type} {H : History ρ}

/-- The loop has read the number of requests at step `a`, and not again in
the first `n` steps. -/
structure Counted (H : History ρ) (a requests n : Nat) : Prop where
  step : H.steps[a]? = some (.loop .readRequests)
  lt : a < n
  latest : ∀ m, a < m → m < n → H.steps[m]? ≠ some (.loop .readRequests)
  requested : (H.worker a).requested = requests

/-- The loop has found its assignment at step `b`, and has been at it ever
since. -/
structure Begun (H : History ρ) (b : Nat) (work : Assignment ρ) (n : Nat) :
    Prop where
  step : H.steps[b]? = some (.loop .begin)
  lt : b < n
  assigned : (H.worker b).assignment? = some work
  atWork : ∀ m, b < m → m ≤ n → (H.worker m).loop.assignment? = some work

/-- The refresh that has begun at step `b` has been through its columns and
its foreign keys. -/
def Finished (H : History ρ) (b : Nat) (work : Assignment ρ) (n : Nat) : Prop :=
  ∃ c d, b < c ∧ c < d ∧ d < n ∧ H.Begun b work d ∧
    H.steps[c]? = some (.loop .writeColumns) ∧
    H.steps[d]? = some (.loop .writeForeignKeys)

/-- The answers that the loop is given from step `first` on and before step
`last`. -/
def replies (H : History ρ) (first last : Nat) : List Inquiry.Reply :=
  ((H.steps.take last).drop first).filterMap Label.reply?

theorem replies_self (H : History ρ) (n : Nat) : H.replies n n = [] :=
  H.filterMap_steps_self Label.reply? n

theorem replies_succ {first n : Nat} {label : Label ρ} (hfirst : first ≤ n)
    (hlabel : H.steps[n]? = some label) :
    H.replies first (n + 1) = H.replies first n ++ label.reply?.toList :=
  H.filterMap_steps_succ Label.reply? hfirst hlabel

theorem Counted.succ {a requests n : Nat} (h : H.Counted a requests n)
    (hn : H.steps[n]? ≠ some (.loop .readRequests)) :
    H.Counted a requests (n + 1) := by
  refine ⟨h.step, Nat.lt_succ_of_lt h.lt, ?_, h.requested⟩
  intro m ham hmn
  rcases Nat.lt_or_eq_of_le (Nat.le_of_lt_succ hmn) with hlt | rfl
  · exact h.latest m ham hlt
  · exact hn

theorem Begun.succ {b n : Nat} {work : Assignment ρ} (h : H.Begun b work n)
    (hn : (H.worker (n + 1)).loop.assignment? = some work) :
    H.Begun b work (n + 1) := by
  refine ⟨h.step, Nat.lt_succ_of_lt h.lt, h.assigned, ?_⟩
  intro m hbm hmn
  rcases Nat.lt_or_eq_of_le hmn with hlt | rfl
  · exact h.atWork m hbm (Nat.le_of_lt_succ hlt)
  · exact hn

theorem Finished.succ {b n : Nat} {work : Assignment ρ}
    (h : H.Finished b work n) : H.Finished b work (n + 1) := by
  obtain ⟨c, d, hbc, hcd, hdn, hrest⟩ := h
  exact ⟨c, d, hbc, hcd, Nat.lt_succ_of_lt hdn, hrest⟩

/-- What a refresh that begins is for is known by the number of its cache
alone. -/
theorem Installed.assignment_eq {j b caller : Nat} {repository : ρ}
    {cache : SchemaCache} {work : Assignment ρ}
    (h : H.Installed j caller repository cache) (hb : b ≤ H.steps.length)
    (hwork : (H.worker b).assignment? = some work)
    (hgeneration : cache.generation = work.generation) :
    work = ⟨repository, cache.topology.schemas, cache.generation⟩ := by
  cases hfound : (H.worker b).cache? with
  | none => simp [Worker.assignment?, hfound] at hwork
  | some found =>
      obtain ⟨_, _, _, source, _, hsource, hbound⟩ :=
        (H.published hb).newest found hfound
      simp only [Worker.assignment?, hbound, hfound, Option.some.injEq] at hwork
      subst hwork
      obtain ⟨_, _, hrepository, htopology⟩ := h.unique hsource hgeneration
      rw [hrepository, htopology, hgeneration]

/-- The steps that have led the loop to where it is after `n` of them. -/
def Progress (H : History ρ) (n : Nat) : LoopPhase ρ → Prop
  | .counted requests => ∃ a, H.Counted a requests n
  | .columns requests work inquiry =>
      ∃ a b, H.Counted a requests n ∧ a < b ∧ H.Begun b work n ∧
        (ColumnIndex.inquiry work.schemas).resumeAll? (H.replies (b + 1) n) =
          some inquiry
  | .foreignKeys requests work inquiry =>
      ∃ a b c, H.Counted a requests n ∧ a < b ∧ H.Begun b work n ∧
        b < c ∧ c < n ∧ H.steps[c]? = some (.loop .writeColumns) ∧
        (ForeignKeyIndex.inquiry work.schemas).resumeAll?
          (H.replies (c + 1) n) = some inquiry
  | .refreshed requests | .completing requests =>
      ∃ a b, H.Counted a requests n ∧ a < b ∧ b < n ∧
        H.steps[b]? = some (.loop .begin) ∧
        ∀ work, (H.worker b).assignment? = some work → H.Finished b work n
  | .waiting | .signalled | .exited | .crashed => True

/-- A step that leaves the loop where it is leaves its progress. -/
theorem progress_succ_of_loop_eq {n : Nat} {label : Label ρ}
    (hlabel : H.steps[n]? = some label) (hreply : label.reply? = none)
    (hreads : label ≠ .loop .readRequests)
    (hloop : (H.worker (n + 1)).loop = (H.worker n).loop)
    (h : H.Progress n (H.worker n).loop) :
    H.Progress (n + 1) (H.worker (n + 1)).loop := by
  have hne : H.steps[n]? ≠ some (.loop .readRequests) := by
    rw [hlabel]
    exact fun heq => hreads (Option.some.inj heq)
  have hsame : ∀ first ≤ n, H.replies first (n + 1) = H.replies first n := by
    intro first hfirst
    rw [replies_succ hfirst hlabel, hreply]
    exact List.append_nil _
  have hbegun : ∀ {b work}, H.Begun b work n → H.Begun b work (n + 1) := by
    intro b work hb
    exact hb.succ (hloop ▸ hb.atWork n hb.lt (Nat.le_refl n))
  rw [hloop]
  generalize (H.worker n).loop = phase at h
  cases phase with
  | counted requests =>
      obtain ⟨a, ha⟩ := h
      exact ⟨a, ha.succ hne⟩
  | columns requests work inquiry =>
      obtain ⟨a, b, ha, hab, hb, hinquiry⟩ := h
      refine ⟨a, b, ha.succ hne, hab, hbegun hb, ?_⟩
      rw [hsame (b + 1) hb.lt]
      exact hinquiry
  | foreignKeys requests work inquiry =>
      obtain ⟨a, b, c, ha, hab, hb, hbc, hcn, hc, hinquiry⟩ := h
      refine ⟨a, b, c, ha.succ hne, hab, hbegun hb, hbc,
        Nat.lt_succ_of_lt hcn, hc, ?_⟩
      rw [hsame (c + 1) hcn]
      exact hinquiry
  | refreshed requests =>
      obtain ⟨a, b, ha, hab, hbn, hb, hfinished⟩ := h
      exact ⟨a, b, ha.succ hne, hab, Nat.lt_succ_of_lt hbn, hb,
        fun work hwork => (hfinished work hwork).succ⟩
  | completing requests =>
      obtain ⟨a, b, ha, hab, hbn, hb, hfinished⟩ := h
      exact ⟨a, b, ha.succ hne, hab, Nat.lt_succ_of_lt hbn, hb,
        fun work hwork => (hfinished work hwork).succ⟩
  | waiting | signalled | exited | crashed => trivial

/-- A step of the loop carries its progress on. -/
theorem progress_succ_of_loopMove {n : Nat} {move : LoopStep}
    (hlabel : H.steps[n]? = some (.loop move))
    (h : H.Progress n (H.worker n).loop) :
    H.Progress (n + 1) (H.worker (n + 1)).loop := by
  have hmove := Worker.loopMove_of_step (H.step_worker hlabel)
  have hne : move ≠ .readRequests →
      H.steps[n]? ≠ some (.loop .readRequests) := by
    rw [hlabel]
    intro hmove heq
    cases heq
    exact hmove rfl
  generalize hnext : H.worker (n + 1) = next at hmove ⊢
  generalize H.events n = events at hmove
  cases hmove with
  | exit | take | columnsBroken | foreignKeysBroken | unfilable
  | complete => trivial
  | readRequests hloop =>
      exact ⟨n, hlabel, Nat.lt_succ_self n, by omega, rfl⟩
  | begin requests hloop =>
      rw [hloop] at h
      obtain ⟨a, ha⟩ := h
      have ha' := ha.succ (hne (by simp))
      change H.Progress (n + 1) ((H.worker n).beginRefresh requests)
      rw [Worker.beginRefresh_eq]
      cases hwork : (H.worker n).assignment? with
      | none =>
          refine ⟨a, n, ha', ha.lt, Nat.lt_succ_self n, hlabel, ?_⟩
          intro work heq
          rw [hwork] at heq
          cases heq
      | some work =>
          refine ⟨a, n, ha', ha.lt, ⟨hlabel, Nat.lt_succ_self n, hwork, ?_⟩, ?_⟩
          · intro m hlt hle
            obtain rfl : m = n + 1 := by omega
            rw [hnext]
            change ((H.worker n).beginRefresh requests).assignment? = some work
            rw [Worker.beginRefresh_eq, hwork]
            rfl
          · rw [replies_self]
            rfl
  | columnsAnswered requests work inquiry call outcome resumed hloop hresumed =>
      rw [hloop] at h
      obtain ⟨a, b, ha, hab, hb, hinquiry⟩ := h
      refine ⟨a, b, ha.succ (hne (by simp)), hab, hb.succ ?_, ?_⟩
      · rw [hnext]
        rfl
      · rw [replies_succ hb.lt hlabel]
        exact Inquiry.resumeAll?_concat hinquiry hresumed
  | writeColumns requests work result hloop =>
      rw [hloop] at h
      obtain ⟨a, b, ha, hab, hb, _⟩ := h
      refine ⟨a, b, n, ha.succ (hne (by simp)), hab, hb.succ ?_, hb.lt,
        Nat.lt_succ_self n, hlabel, ?_⟩
      · rw [hnext]
        rfl
      · rw [replies_self]
        rfl
  | foreignKeysAnswered requests work inquiry call outcome resumed hloop
      hresumed =>
      rw [hloop] at h
      obtain ⟨a, b, c, ha, hab, hb, hbc, hcn, hc, hinquiry⟩ := h
      refine ⟨a, b, c, ha.succ (hne (by simp)), hab, hb.succ ?_, hbc,
        Nat.lt_succ_of_lt hcn, hc, ?_⟩
      · rw [hnext]
        rfl
      · rw [replies_succ hcn hlabel]
        exact Inquiry.resumeAll?_concat hinquiry hresumed
  | writeForeignKeys requests work result hloop =>
      rw [hloop] at h
      obtain ⟨a, b, c, ha, hab, hb, hbc, hcn, hc, _⟩ := h
      refine ⟨a, b, ha.succ (hne (by simp)), hab, Nat.lt_succ_of_lt hb.lt,
        hb.step, ?_⟩
      intro other hother
      rw [hb.assigned] at hother
      cases hother
      exact ⟨c, n, hbc, hcn, Nat.lt_succ_self n, hb, hc, hlabel⟩
  | countRun requests hloop =>
      rw [hloop] at h
      obtain ⟨a, b, ha, hab, hbn, hb, hfinished⟩ := h
      exact ⟨a, b, ha.succ (hne (by simp)), hab, Nat.lt_succ_of_lt hbn, hb,
        fun work hwork => (hfinished work hwork).succ⟩

theorem progress_succ {n : Nat} {label : Label ρ}
    (hlabel : H.steps[n]? = some label)
    (h : H.Progress n (H.worker n).loop) :
    H.Progress (n + 1) (H.worker (n + 1)).loop := by
  have hstep := H.step_worker hlabel
  cases label with
  | caller id move =>
      exact progress_succ_of_loop_eq hlabel rfl nofun
        (Worker.callerMove_of_step hstep).loop_eq h
  | loop move => exact progress_succ_of_loopMove hlabel h
  | drop =>
      exact progress_succ_of_loop_eq hlabel rfl nofun
        (congrArg (·.loop) (Worker.eq_of_drop hstep).1) h

/-- At all times the loop is where the steps of its latest refresh have
led. -/
theorem progress (H : History ρ) {n : Nat} (hn : n ≤ H.steps.length) :
    H.Progress n (H.worker n).loop :=
  H.induction (P := fun n => H.Progress n (H.worker n).loop)
    (by simp [Worker.initial, Progress])
    (fun _ _ hlabel ih => progress_succ hlabel ih) hn

end History

end SchemaScope

import Mathlib.Logic.Relation
import SchemaScope.Proofs.Inquiry
import SchemaScope.Proofs.Worker.Signals

/-!
Settling. When no request is counted any more and nobody stops the worker, its
loop comes to rest: it works off the signal that waits, if there is one, and
then waits with no signal left. The callers may do everything else meanwhile.
-/

namespace SchemaScope

/-- A step of a caller that counts no request and is not a call for the worker
to stop. -/
def Label.isQuiet {ρ : Type} : Label ρ → Bool
  | .caller _ .count | .caller _ .stop | .loop _ | .drop => false
  | .caller _ _ => true

/-- The loop is not broken off inside a question, and every relation it is
given has a pair. -/
def LoopStep.Sound : LoopStep → Prop
  | .brokenOff => False
  | .answered (.schemaForeignKeys _) (.ok relations) =>
      ∀ relation ∈ relations, relation.pairs ≠ []
  | _ => True

theorem LoopStep.sound_error (call : Call) (e : SchemaError) :
    (LoopStep.answered call (.error e)).Sound := by
  cases call <;> trivial

namespace Worker

variable {ρ : Type} {w w' : Worker ρ} {events : List Event}

theorem Reachable.step {label : Label ρ} (h : w.Reachable)
    (hstep : w.step label = some (w', events)) : w'.Reachable := by
  obtain ⟨labels, earlier, hrun⟩ := h
  have hlast := run_singleton_eq_some_iff.2 hstep
  exact ⟨labels ++ [label], earlier ++ events,
    run_append_eq_some_iff.2 ⟨w, earlier, events, hrun, hlast, rfl⟩⟩

/-- Whoever is stopping the worker, or has told the loop to end, has dismissed
it before. -/
structure Dismissal (w : Worker ρ) : Prop where
  told : w.shutdown = true → w.dismissed = true
  telling : ∀ id, w.callers.get? id = some .stopping ∨
    w.callers.get? id = some .dismissing → w.dismissed = true

theorem dismissal_of_step {label : Label ρ}
    (h : w.step label = some (w', events)) (hw : w.Dismissal) :
    w'.Dismissal := by
  cases label with
  | caller id move =>
      cases callerMove_of_step h with
      | stop => exact ⟨fun _ => rfl, fun _ _ => rfl⟩
      | refuse | unready | stopAgain => exact hw
      | mark hid =>
          have hdismissed := hw.telling id (.inl hid)
          exact ⟨hw.told, fun _ _ => hdismissed⟩
      | dismiss hid =>
          have hdismissed := hw.telling id (.inr hid)
          exact ⟨fun _ => hdismissed, fun _ _ => hdismissed⟩
      | brokenOff | giveUp | send | readRequested =>
          refine ⟨hw.told, fun k hk => hw.telling k ?_⟩
          rw [get?_leave] at hk
          split at hk
          · simp at hk
          · exact hk
      | _ =>
          refine ⟨hw.told, fun k hk => hw.telling k ?_⟩
          rw [get?_goOn] at hk
          split at hk
          · simp at hk
          · exact hk
  | loop move =>
      obtain ⟨_, _, _, _, _, rfl, _⟩ := (loopMove_of_step h).exists_eq
      exact ⟨hw.told, hw.telling⟩
  | drop =>
      rw [(eq_of_drop h).1]
      exact ⟨fun _ => rfl, fun _ _ => rfl⟩

theorem Reachable.dismissal (h : w.Reachable) : w.Dismissal :=
  h.induction ⟨nofun, nofun⟩ dismissal_of_step

/-- The loop waits, and no signal is there for it. -/
structure AtRest (w : Worker ρ) : Prop where
  loop : w.loop = .waiting
  signal : w.signal = false

/-- One worker comes out of another by a quiet step. -/
def QuietStep (w w' : Worker ρ) : Prop :=
  ∃ label events, label.isQuiet = true ∧ w.step label = some (w', events)

/-- Whatever quiet steps come in between, the loop can go on, and it comes to
rest after finitely many steps of its own. The loop is not broken off, and it
is given relations that have pairs. -/
inductive ComesToRest : Worker ρ → Prop where
  | rest {w : Worker ρ} (hrest : w.AtRest) : ComesToRest w
  | turn {w : Worker ρ}
      (possible : ∀ between, Relation.ReflTransGen QuietStep w between →
        ∃ step, LoopStep.Sound step ∧ (between.step (.loop step)).isSome)
      (onward : ∀ between step next events,
        Relation.ReflTransGen QuietStep w between → step.Sound →
        between.step (.loop step) = some (next, events) → ComesToRest next) :
      ComesToRest w

/-- A worker that steps have led to, that nobody has stopped, and that every
counted request has left its signal with. -/
structure Undisturbed (w : Worker ρ) : Prop where
  reachable : w.Reachable
  dismissed : w.dismissed = false
  delivered : w.Delivered

theorem CallerMove.dismissed_eq {id : Nat} {move : CallerStep ρ}
    (h : CallerMove w id move w' events) (hmove : move ≠ .stop) :
    w'.dismissed = w.dismissed := by
  cases h with
  | stop => exact absurd rfl hmove
  | _ => rfl

namespace LoopMove

variable {step : LoopStep} {requests : Nat} {work : Assignment ρ}

/-- A loop that asks for columns goes on asking, or has done so and turns to
foreign keys. -/
theorem columns_cases (h : LoopMove w step w' events) (hsound : step.Sound)
    {inquiry : Inquiry ColumnIndex}
    (hloop : w.loop = .columns requests work inquiry) :
    (∃ call outcome next, inquiry.resume? call outcome = some next ∧
        w'.loop = .columns requests work next) ∨
      w'.loop = .foreignKeys requests work
        (ForeignKeyIndex.inquiry work.schemas) := by
  cases h with
  | columnsAnswered seen other asked call outcome next hasking hresume =>
      rw [hloop] at hasking
      cases hasking
      exact .inl ⟨call, outcome, next, hresume, rfl⟩
  | writeColumns seen other result hdone =>
      rw [hloop] at hdone
      cases hdone
      exact .inr rfl
  | columnsBroken => exact hsound.elim
  | _ => simp_all

/-- A loop that asks for foreign keys goes on asking, has been given a relation
without pairs, or has done so and is through. -/
theorem foreignKeys_cases (h : LoopMove w step w' events) (hsound : step.Sound)
    {inquiry : Inquiry (Option ForeignKeyIndex)}
    (hloop : w.loop = .foreignKeys requests work inquiry) :
    (∃ call outcome next, step = .answered call outcome ∧
        inquiry.resume? call outcome = some next ∧
        w'.loop = .foreignKeys requests work next) ∨
      inquiry = .done (.ok none) ∨
      (∃ result, inquiry = .done result) ∧ w'.loop = .refreshed requests := by
  cases h with
  | foreignKeysAnswered seen other asked call outcome next hasking hresume =>
      rw [hloop] at hasking
      cases hasking
      exact .inl ⟨call, outcome, next, rfl, hresume, rfl⟩
  | unfilable seen other hnone =>
      rw [hloop] at hnone
      cases hnone
      exact .inr (.inl rfl)
  | writeForeignKeys seen other result hdone =>
      rw [hloop] at hdone
      cases hdone
      exact .inr (.inr ⟨⟨_, rfl⟩, rfl⟩)
  | foreignKeysBroken => exact hsound.elim
  | _ => simp_all

end LoopMove

namespace Undisturbed

theorem shutdown (hw : w.Undisturbed) : w.shutdown = false := by
  refine Bool.eq_false_iff.2 fun hshutdown => ?_
  have hdismissed := hw.reachable.dismissal.told hshutdown
  rw [hw.dismissed] at hdismissed
  cases hdismissed

theorem quietStep (hw : w.Undisturbed) (h : QuietStep w w') :
    w'.Undisturbed ∧ w'.loop = w.loop ∧ w'.signal = w.signal := by
  obtain ⟨label, events, hquiet, hstep⟩ := h
  cases label with
  | caller id move =>
      have hmove := callerMove_of_step hstep
      have hcount : move ≠ .count := by
        rintro rfl
        cases hquiet
      have hstop : move ≠ .stop := by
        rintro rfl
        cases hquiet
      have hsend := hw.delivered.ne_send hmove
      exact ⟨⟨hw.reachable.step hstep,
          (hmove.dismissed_eq hstop).trans hw.dismissed,
          hw.delivered.callerMove hmove hcount⟩,
        hmove.loop_eq, hmove.signal_eq hsend⟩
  | loop move => cases hquiet
  | drop => cases hquiet

theorem quietSteps (hw : w.Undisturbed)
    (h : Relation.ReflTransGen QuietStep w w') :
    w'.Undisturbed ∧ w'.loop = w.loop ∧ w'.signal = w.signal := by
  induction h with
  | refl => exact ⟨hw, rfl, rfl⟩
  | tail _ hlast ih =>
      obtain ⟨hbefore, hloop, hsignal⟩ := ih
      obtain ⟨hafter, hsame, hkept⟩ := hbefore.quietStep hlast
      exact ⟨hafter, hsame.trans hloop, hkept.trans hsignal⟩

theorem loopStep {step : LoopStep} (hw : w.Undisturbed)
    (h : w.step (.loop step) = some (w', events)) : w'.Undisturbed := by
  have hmove := loopMove_of_step h
  have hdelivered := hw.delivered.loopMove hmove
  have hdismissed : w'.dismissed = w.dismissed := by
    obtain ⟨_, _, _, _, _, rfl, _⟩ := hmove.exists_eq
    rfl
  exact ⟨hw.reachable.step h, hdismissed.trans hw.dismissed, hdelivered⟩

/-- A loop that is not over and not at rest can go on. -/
theorem exists_loopStep (hw : w.Undisturbed) (hover : w.loop.isOver = false)
    (hsignal : w.loop = .waiting → w.signal = true) :
    ∃ step, LoopStep.Sound step ∧ (w.step (.loop step)).isSome := by
  cases hloop : w.loop with
  | waiting =>
      refine ⟨.take, trivial, ?_⟩
      rw [step, hloop, Worker.loopStep, hsignal hloop, hw.shutdown]
      rfl
  | signalled => exact ⟨.readRequests, trivial, by rw [step, hloop]; rfl⟩
  | counted requests => exact ⟨.begin, trivial, by rw [step, hloop]; rfl⟩
  | columns requests work inquiry =>
      cases inquiry with
      | done result =>
          exact ⟨.writeColumns, trivial, by rw [step, hloop]; rfl⟩
      | ask call next =>
          refine ⟨.answered call (.error .workerStopped),
            LoopStep.sound_error call _, ?_⟩
          rw [step, hloop, Worker.loopStep, Inquiry.resume?, dif_pos rfl]
          rfl
  | foreignKeys requests work inquiry =>
      cases inquiry with
      | done result =>
          refine ⟨.writeForeignKeys, trivial, ?_⟩
          rw [step, hloop]
          rcases result with e | _ | foreignKeys
          · rfl
          · rfl
          · rfl
      | ask call next =>
          refine ⟨.answered call (.error .workerStopped),
            LoopStep.sound_error call _, ?_⟩
          rw [step, hloop, Worker.loopStep, Inquiry.resume?, dif_pos rfl]
          rfl
  | refreshed requests => exact ⟨.countRun, trivial, by rw [step, hloop]; rfl⟩
  | completing requests => exact ⟨.complete, trivial, by rw [step, hloop]; rfl⟩
  | exited | crashed =>
      rw [hloop] at hover
      cases hover

/-- A loop comes to rest if it does so after every step that it can take from
where it is. -/
theorem comesToRest_of_turn (hw : w.Undisturbed)
    (hover : w.loop.isOver = false)
    (hsignal : w.loop = .waiting → w.signal = true)
    (hnext : ∀ {between next : Worker ρ} {step events}, between.Undisturbed →
      between.loop = w.loop → between.signal = w.signal → step.Sound →
      LoopMove between step next events → next.Undisturbed →
      next.ComesToRest) :
    w.ComesToRest := by
  refine .turn ?_ ?_
  · intro between hquiet
    obtain ⟨hbetween, hloop, hkept⟩ := hw.quietSteps hquiet
    exact hbetween.exists_loopStep (hloop ▸ hover)
      (fun hwaiting => hkept.trans (hsignal (hloop ▸ hwaiting)))
  · intro between step next events hquiet hsound hstep
    obtain ⟨hbetween, hloop, hkept⟩ := hw.quietSteps hquiet
    exact hnext hbetween hloop hkept hsound (loopMove_of_step hstep)
      (hbetween.loopStep hstep)

/-- As long as a refresh is in flight, no signal is taken. -/
theorem comesToRest_of_inFlight (hw : w.Undisturbed)
    (hflight : w.loop.inFlight = true) (hsignal : w.signal = false)
    (hnext : ∀ {between next : Worker ρ} {step events},
      between.loop = w.loop → step.Sound → LoopMove between step next events →
      next.Undisturbed → next.signal = false → next.ComesToRest) :
    w.ComesToRest := by
  refine hw.comesToRest_of_turn (LoopPhase.isOver_of_inFlight hflight) ?_ ?_
  · intro hwaiting
    rw [hwaiting] at hflight
    cases hflight
  · intro between next step events _ hloop hkept hsound hmove hundisturbed
    have hsame := hmove.signal_eq (hmove.ne_take (hloop ▸ hflight))
    exact hnext hloop hsound hmove hundisturbed
      (hsame.trans (hkept.trans hsignal))

theorem comesToRest_of_completing {requests : Nat} (hw : w.Undisturbed)
    (hloop : w.loop = .completing requests) (hsignal : w.signal = false) :
    w.ComesToRest := by
  refine hw.comesToRest_of_inFlight (by rw [hloop]; rfl) hsignal ?_
  intro between next step events hphase _ hmove _ hquiet
  rw [hloop] at hphase
  cases hmove with
  | complete => exact .rest ⟨rfl, hquiet⟩
  | _ => simp_all

theorem comesToRest_of_refreshed {requests : Nat} (hw : w.Undisturbed)
    (hloop : w.loop = .refreshed requests) (hsignal : w.signal = false) :
    w.ComesToRest := by
  refine hw.comesToRest_of_inFlight (by rw [hloop]; rfl) hsignal ?_
  intro between next step events hphase _ hmove hnext hquiet
  rw [hloop] at hphase
  cases hmove with
  | countRun => exact hnext.comesToRest_of_completing rfl hquiet
  | _ => simp_all

theorem comesToRest_of_foreignKeys_done {requests : Nat} {work : Assignment ρ}
    {result : Outcome (Option ForeignKeyIndex)} (hw : w.Undisturbed)
    (hloop : w.loop = .foreignKeys requests work (.done result))
    (hresult : result ≠ .ok none) (hsignal : w.signal = false) :
    w.ComesToRest := by
  refine hw.comesToRest_of_inFlight (by rw [hloop]; rfl) hsignal ?_
  intro between next step events hphase hsound hmove hnext hquiet
  rcases hmove.foreignKeys_cases hsound (hphase.trans hloop) with
    ⟨_, _, _, _, hresume, _⟩ | hnone | ⟨_, hrefreshed⟩
  · cases hresume
  · cases hnone
    exact absurd rfl hresult
  · exact hnext.comesToRest_of_refreshed hrefreshed hquiet

/-- The induction is on the schemas that are left to ask about; what has been
filed so far may be anything. -/
theorem comesToRest_of_foreignKeys {requests : Nat} {work : Assignment ρ}
    {schemas : List String} {index : ForeignKeyIndex} (hw : w.Undisturbed)
    (hloop : w.loop = .foreignKeys requests work
      (ForeignKeyIndex.inquireSchemas index schemas))
    (hsignal : w.signal = false) : w.ComesToRest := by
  induction schemas generalizing w index with
  | nil => exact hw.comesToRest_of_foreignKeys_done hloop nofun hsignal
  | cons schema rest ih =>
      refine hw.comesToRest_of_inFlight (by rw [hloop]; rfl) hsignal ?_
      intro between next step events hphase hsound hmove hnext hquiet
      rcases hmove.foreignKeys_cases hsound (hphase.trans hloop) with
        ⟨call, outcome, inquiry, rfl, hresume, hasking⟩ |
          hnone | ⟨⟨_, hdone⟩, _⟩
      · obtain ⟨rfl, rfl⟩ := Inquiry.exists_of_resume?_ask hresume
        cases outcome with
        | error e =>
            exact hnext.comesToRest_of_foreignKeys_done hasking nofun hquiet
        | ok relations =>
            obtain ⟨filed, hfiled⟩ :=
              ForeignKeyIndex.exists_insertAll? schema hsound index
            have hrest : next.loop = .foreignKeys requests work
                (ForeignKeyIndex.inquireSchemas filed rest) := by
              rw [hasking]
              simp only [Inquiry.bind, hfiled]
            exact ih hnext hrest hquiet
      · cases hnone
      · cases hdone

theorem comesToRest_of_columns {requests : Nat} {work : Assignment ρ}
    {inquiry : Inquiry ColumnIndex} (hw : w.Undisturbed)
    (hloop : w.loop = .columns requests work inquiry)
    (hsignal : w.signal = false) : w.ComesToRest := by
  induction inquiry generalizing w with
  | done result =>
      refine hw.comesToRest_of_inFlight (by rw [hloop]; rfl) hsignal ?_
      intro between next step events hphase hsound hmove hnext hquiet
      rcases hmove.columns_cases hsound (hphase.trans hloop) with
        ⟨_, _, _, hresume, _⟩ | hforeignKeys
      · cases hresume
      · exact hnext.comesToRest_of_foreignKeys hforeignKeys hquiet
  | ask asked following ih =>
      refine hw.comesToRest_of_inFlight (by rw [hloop]; rfl) hsignal ?_
      intro between next step events hphase hsound hmove hnext hquiet
      rcases hmove.columns_cases hsound (hphase.trans hloop) with
        ⟨call, outcome, _, hresume, hasking⟩ | hforeignKeys
      · obtain ⟨rfl, rfl⟩ := Inquiry.exists_of_resume?_ask hresume
        exact ih outcome hnext hasking hquiet
      · exact hnext.comesToRest_of_foreignKeys hforeignKeys hquiet

theorem comesToRest_of_counted {requests : Nat} (hw : w.Undisturbed)
    (hloop : w.loop = .counted requests) (hsignal : w.signal = false) :
    w.ComesToRest := by
  refine hw.comesToRest_of_inFlight (by rw [hloop]; rfl) hsignal ?_
  intro between next step events hphase _ hmove hnext hquiet
  rw [hloop] at hphase
  cases hmove with
  | begin seen =>
      rcases between.beginRefresh_cases seen with ⟨work, hbegun⟩ | hbegun
      · exact hnext.comesToRest_of_columns hbegun hquiet
      · exact hnext.comesToRest_of_refreshed hbegun hquiet
  | _ => simp_all

theorem comesToRest_of_signalled (hw : w.Undisturbed)
    (hloop : w.loop = .signalled) (hsignal : w.signal = false) :
    w.ComesToRest := by
  refine hw.comesToRest_of_inFlight (by rw [hloop]; rfl) hsignal ?_
  intro between next step events hphase _ hmove hnext hquiet
  rw [hloop] at hphase
  cases hmove with
  | readRequests => exact hnext.comesToRest_of_counted rfl hquiet
  | _ => simp_all

/-- A loop that waits comes to rest, at once or after one more refresh. -/
theorem comesToRest (hw : w.Undisturbed) (hloop : w.loop = .waiting) :
    w.ComesToRest := by
  cases hsignal : w.signal with
  | false => exact .rest ⟨hloop, hsignal⟩
  | true =>
      refine hw.comesToRest_of_turn (by rw [hloop]; rfl) (fun _ => hsignal) ?_
      intro between next step events hbetween hphase _ _ hmove hnext
      rw [hloop] at hphase
      cases hmove with
      | take => exact hnext.comesToRest_of_signalled rfl rfl
      | exit _ hshutdown =>
          rw [hbetween.shutdown] at hshutdown
          cases hshutdown
      | _ => simp_all

end Undisturbed

end Worker

end SchemaScope

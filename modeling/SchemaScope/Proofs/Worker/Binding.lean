import SchemaScope.Proofs.Topology.Questions
import SchemaScope.Proofs.Worker.Absence

/-!
Binds that fail. A bind asks five questions in order and gives up at the first
answer that is fatal. Main statement: however the steps of other parties come in
between, a bind that has given up leaves the worker as if it had never come;
only one that has got all its answers installs a cache.
-/

namespace SchemaScope

namespace Worker

variable {ρ : Type} {w : Worker ρ}

/-- What a caller does that binds a repository whose answers never change. -/
def bindMoves (answer : (c : Call) → Outcome c.Answer)
    (inquiry : Inquiry Topology) : List (CallerStep ρ) :=
  (inquiry.calls answer).map (fun call => .answered call (answer call)) ++
    match inquiry.run answer with
    | .ok _ => [.install, .count, .send]
    | .error _ => [.giveUp]

/-- A bind that is asking can be brought to its end, whatever the state of the
worker. -/
theorem exists_run_bindMoves {id : Nat} {repository : ρ}
    {inquiry : Inquiry Topology} (answer : (c : Call) → Outcome c.Answer)
    (hid : w.callers.get? id = some (.binding repository inquiry)) :
    ∃ w', w.run ((bindMoves answer inquiry).map (.caller id)) =
      some (w', [.bound id ((inquiry.run answer).map fun _ => ())]) := by
  induction inquiry generalizing w with
  | done result =>
      cases result with
      | error e =>
          have hgiveUp := (CallerMove.giveUp repository e hid).step_eq
          exact ⟨_, run_singleton_eq_some_iff.2 hgiveUp⟩
      | ok topology =>
          exact ⟨_, run_install hid⟩
  | ask call next ih =>
      have hnext : (Inquiry.ask call next).resume? call (answer call) =
          some (next (answer call)) := by
        simp [Inquiry.resume?]
      have hanswered := (CallerMove.answered repository _ call (answer call)
        _ hid hnext).step_eq
      obtain ⟨w', hrun⟩ := ih (answer call) (get?_goOn_self w id _)
      exact ⟨w', run_cons_eq_some_iff.2 ⟨_, _, _, hanswered, hrun, rfl⟩⟩

end Worker

namespace History

variable {ρ : Type} {H : History ρ}

/-- A bind that was let in at step `first` and has not left before step
`last`. -/
structure Bind (H : History ρ) where
  caller : Nat
  repository : ρ
  first : Nat
  last : Nat
  begins : H.steps[first]? = some (.caller caller (.bind repository))
  letIn : (H.worker first).stopped = false
  first_lt : first < last
  last_le : last ≤ H.steps.length
  present : ∀ n, first < n → n ≤ last →
    ((H.worker n).callers.get? caller).isSome

namespace Bind

variable (b : H.Bind)

/-- The answers that the bind was given before step `last`. -/
def replies : List Inquiry.Reply :=
  H.repliesTo b.caller (b.first + 1) b.last

/-- The bind returns at step `last`. -/
def Returns (result : Outcome Unit) : Prop :=
  Event.bound b.caller result ∈ H.events b.last

/-- The steps before step `last`, without those of the bind. -/
def without : List (Label ρ) := H.without b.caller b.first b.last

/-- The last answer that the bind was given is its first fatal one. -/
def Fatal (e : SchemaError) : Prop :=
  ∃ earlier reply, b.replies = earlier ++ [reply] ∧
    (∀ reply ∈ earlier, reply.fatal? = none) ∧ reply.fatal? = some e

/-- How far the bind has come after `n` steps: it is asking its repository, or
it has installed the cache that the answers have led to. -/
def Course (n : Nat) : Caller ρ → Prop
  | .binding source inquiry => source = b.repository ∧
      Topology.inquiry.resumeAll?
        (H.repliesTo b.caller (b.first + 1) n) = some inquiry
  | .requesting (some _) | .signalling (some _) =>
      ∃ j cache, b.first < j ∧ j < n ∧
        H.Installed j b.caller b.repository cache ∧
        Topology.inquiry.resumeAll?
          (H.repliesTo b.caller (b.first + 1) n) =
            some (.done (.ok cache.topology))
  | _ => False

variable {b}

/-- A bind that is let in begins to ask, and nothing is seen of that. -/
theorem let_in (b : H.Bind) :
    (H.worker b.first).callers.get? b.caller = none ∧
      H.worker (b.first + 1) = (H.worker b.first).goOn b.caller
        (.binding b.repository Topology.inquiry) ∧
      H.events b.first = [] := by
  have hmove := Worker.callerMove_of_step (H.step_worker b.begins)
  generalize H.worker (b.first + 1) = next at hmove ⊢
  generalize H.events b.first = events at hmove ⊢
  cases hmove with
  | refuse _ _ hstopped =>
      rw [b.letIn] at hstopped
      cases hstopped
  | bind _ hid => exact ⟨hid, rfl, rfl⟩

/-- A step of another party leaves the bind where it is. -/
theorem Course.succ_of_ne {n : Nat} {label : Label ρ} {phase : Caller ρ}
    (h : b.Course n phase) (hn : b.first < n)
    (hlabel : H.steps[n]? = some label)
    (hother : label.replyTo? b.caller = none) : b.Course (n + 1) phase := by
  have hreplies : H.repliesTo b.caller (b.first + 1) (n + 1) =
      H.repliesTo b.caller (b.first + 1) n := by
    rw [repliesTo_succ hn hlabel, hother]
    exact List.append_nil _
  cases phase with
  | binding source inquiry => exact ⟨h.1, hreplies ▸ h.2⟩
  | requesting installed | signalling installed =>
      cases installed with
      | none => exact h
      | some generation =>
          obtain ⟨j, cache, hfirst, hj, hinstalled, hled⟩ := h
          exact ⟨j, cache, hfirst, Nat.lt_succ_of_lt hj, hinstalled,
            hreplies ▸ hled⟩
  | _ => exact h

/-- A step of the bind that is not its last one brings it further. -/
theorem Course.succ_of_move {n : Nat} {move : CallerStep ρ} {phase : Caller ρ}
    (h : b.Course n phase) (hn : b.first < n)
    (hphase : (H.worker n).callers.get? b.caller = some phase)
    (hlabel : H.steps[n]? = some (.caller b.caller move))
    (hstays : ((H.worker (n + 1)).callers.get? b.caller).isSome) :
    ∃ next, (H.worker (n + 1)).callers.get? b.caller = some next ∧
      b.Course (n + 1) next := by
  have hmove := Worker.callerMove_of_step (H.step_worker hlabel)
  have hreplies : H.repliesTo b.caller (b.first + 1) (n + 1) =
      H.repliesTo b.caller (b.first + 1) n ++
        (Label.replyTo? b.caller (.caller b.caller move)).toList :=
    repliesTo_succ hn hlabel
  generalize hlater : H.worker (n + 1) = later at hmove hstays ⊢
  generalize H.events n = events at hmove
  cases hmove with
  | answered source inquiry call outcome next hid hnext =>
      obtain rfl : .binding source inquiry = phase :=
        Option.some.inj (hid.symm.trans hphase)
      refine ⟨_, Worker.get?_goOn_self _ _ _, h.1, ?_⟩
      rw [hreplies, Label.replyTo?, if_pos rfl]
      exact Inquiry.resumeAll?_concat h.2 hnext
  | install source topology hid =>
      obtain rfl : .binding source (.done (.ok topology)) = phase :=
        Option.some.inj (hid.symm.trans hphase)
      obtain ⟨rfl, hled⟩ := h
      refine ⟨_, Worker.get?_goOn_self _ _ _, n,
        { generation := (H.worker n).generation + 1, topology }, hn,
        Nat.lt_succ_self n, ⟨hlabel, hid, rfl⟩, ?_⟩
      rw [hreplies]
      simpa [Label.replyTo?] using hled
  | count installed hid =>
      obtain rfl : .requesting installed = phase :=
        Option.some.inj (hid.symm.trans hphase)
      have hsignalling : b.Course n (.signalling installed) := by
        cases installed with
        | none => exact h
        | some generation => exact h
      exact ⟨_, Worker.get?_goOn_self _ _ _,
        hsignalling.succ_of_ne hn hlabel rfl⟩
  | brokenOff | giveUp | send | readRequested | dismiss =>
      rw [Worker.get?_leave_self] at hstays
      cases hstays
  | mark hid =>
      obtain rfl : .stopping = phase := Option.some.inj (hid.symm.trans hphase)
      exact h.elim
  | _ => simp_all

/-- At all times a bind is where its answers have led. -/
theorem exists_course (b : H.Bind) {n : Nat} (hfirst : b.first < n)
    (hlast : n ≤ b.last) :
    ∃ phase, (H.worker n).callers.get? b.caller = some phase ∧
      b.Course n phase := by
  induction hfirst with
  | refl =>
      have hphase : (H.worker (b.first + 1)).callers.get? b.caller =
          some (.binding b.repository Topology.inquiry) := by
        rw [b.let_in.2.1, Worker.get?_goOn_self]
      refine ⟨_, hphase, rfl, ?_⟩
      rw [repliesTo, H.filterMap_steps_self]
      rfl
  | @step n hfirst ih =>
      obtain ⟨phase, hphase, hcourse⟩ := ih (Nat.le_of_succ_le hlast)
      have hn : n < H.steps.length := Nat.lt_of_lt_of_le hlast b.last_le
      have hlabel := List.getElem?_eq_getElem hn
      have hstays := b.present (n + 1) (Nat.lt_succ_of_lt hfirst) hlast
      by_cases hown : ∃ move, H.steps[n] = .caller b.caller move
      · obtain ⟨move, hmove⟩ := hown
        exact hcourse.succ_of_move hfirst hphase (hmove ▸ hlabel) hstays
      · have hother := not_exists.1 hown
        have hsame :=
          Worker.get?_eq_of_step (H.step_worker hlabel) hother
        refine ⟨phase, hsame.trans hphase, hcourse.succ_of_ne hfirst hlabel ?_⟩
        exact Label.replyTo?_of_ne hother

/-- Where the answers of a bind have led that is asking or through with
it. -/
theorem reached_of_binding {source : ρ} {inquiry : Inquiry Topology}
    (hphase : (H.worker b.last).callers.get? b.caller =
      some (.binding source inquiry)) :
    source = b.repository ∧
      Inquiry.Reached Topology.questions b.replies inquiry := by
  obtain ⟨phase, heq, hcourse⟩ := b.exists_course b.first_lt (Nat.le_refl _)
  obtain rfl : phase = .binding source inquiry :=
    Option.some.inj (heq.symm.trans hphase)
  exact ⟨hcourse.1, Topology.asks_inquiry.reached hcourse.2⟩

/-- A bind returns because it gives up or because it has left its signal. -/
theorem Returns.cases {result : Outcome Unit} (h : b.Returns result) :
    (∃ source e, result = .error e ∧
        (H.worker b.last).callers.get? b.caller =
          some (.binding source (.done (.error e))) ∧
        H.steps[b.last]? = some (.caller b.caller .giveUp) ∧
        H.worker (b.last + 1) = (H.worker b.last).leave b.caller ∧
        H.events b.last = [.bound b.caller (.error e)]) ∨
      ∃ generation, result = .ok () ∧
        (H.worker b.last).callers.get? b.caller =
          some (.signalling (some generation)) := by
  obtain ⟨label, hlabel⟩ := H.exists_step_of_mem_events h
  have hstep := H.step_worker hlabel
  have hpresent := b.present b.last b.first_lt (Nat.le_refl _)
  rw [Returns] at h
  generalize H.worker (b.last + 1) = next at hstep ⊢
  generalize H.events b.last = events at hstep h ⊢
  cases label with
  | caller id move =>
      cases Worker.callerMove_of_step hstep with
      | refuse repository hid =>
          obtain ⟨rfl, _⟩ := Event.bound.inj (List.mem_singleton.1 h)
          rw [hid] at hpresent
          cases hpresent
      | giveUp source e hid =>
          obtain ⟨rfl, rfl⟩ := Event.bound.inj (List.mem_singleton.1 h)
          exact .inl ⟨source, e, rfl, hid, hlabel, rfl, rfl⟩
      | send installed hid =>
          rcases installed with _ | generation
          · simp [Worker.returned] at h
          · obtain ⟨rfl, rfl⟩ := Event.bound.inj (List.mem_singleton.1 h)
            exact .inr ⟨generation, rfl, hid⟩
      | _ => simp at h
  | loop move =>
      obtain ⟨_, heq⟩ :=
        (Worker.loopMove_of_step hstep).exists_warning h
      cases heq
  | drop =>
      rw [(Worker.eq_of_drop hstep).2] at h
      cases h

/-- A bind that has not installed a cache has been asking ever since it was let
in. -/
theorem binding_of_last {source : ρ} {inquiry : Inquiry Topology}
    (hphase : (H.worker b.last).callers.get? b.caller =
      some (.binding source inquiry)) {n : Nat} (hfirst : b.first < n)
    (hlast : n ≤ b.last) :
    ∃ middle, (H.worker n).callers.get? b.caller =
      some (.binding source middle) := by
  obtain ⟨i, hasking⟩ := H.exists_asking b.last_le _ _ _ hphase
  refine hasking.binding n ?_ hlast
  by_contra hle
  -- Its caller could not have come in while it was there already.
  have hpresent : ((H.worker i).callers.get? b.caller).isSome :=
    b.present i (by omega) (Nat.le_of_lt hasking.lt)
  have hmove := Worker.callerMove_of_step (H.step_worker hasking.step)
  generalize H.worker (i + 1) = next at hmove
  generalize H.events i = events at hmove
  cases hmove with
  | refuse _ hid | bind _ hid => simp [hid] at hpresent

/-- No step of a bind that has not installed a cache touches anything but the
bind itself, and nothing is seen of it. -/
theorem own_step {source : ρ} {inquiry : Inquiry Topology}
    (hphase : (H.worker b.last).callers.get? b.caller =
      some (.binding source inquiry)) {n : Nat} (hfirst : b.first ≤ n)
    (hlast : n < b.last) {label : Label ρ}
    (hlabel : H.steps[n]? = some label)
    (hown : label.isOf b.caller = true) :
    (∃ phase, H.worker (n + 1) = (H.worker n).goOn b.caller phase) ∧
      H.events n = [] := by
  rcases Nat.lt_or_eq_of_le hfirst with hlt | rfl
  · obtain ⟨before, hbefore⟩ :=
      binding_of_last hphase hlt (Nat.le_of_lt hlast)
    obtain ⟨after, hafter⟩ :=
      binding_of_last hphase (Nat.lt_succ_of_le hfirst) hlast
    obtain ⟨move, rfl⟩ := Label.isOf_iff.1 hown
    have hmove := Worker.callerMove_of_step (H.step_worker hlabel)
    generalize H.worker (n + 1) = next at hmove hafter ⊢
    generalize H.events n = events at hmove ⊢
    cases hmove with
    | answered => exact ⟨⟨_, rfl⟩, rfl⟩
    | brokenOff | giveUp =>
        rw [Worker.get?_leave_self] at hafter
        cases hafter
    | install =>
        rw [Worker.get?_goOn_self] at hafter
        cases hafter
    | _ => simp_all
  · exact ⟨⟨_, b.let_in.2.1⟩, b.let_in.2.2⟩

/-- Without a bind that has not installed a cache the others take the same
steps and see the same. -/
theorem exists_run_without {source : ρ} {inquiry : Inquiry Topology}
    (hphase : (H.worker b.last).callers.get? b.caller =
      some (.binding source inquiry)) {n : Nat} (hfirst : b.first ≤ n)
    (hlast : n ≤ b.last) :
    ∃ seen, Worker.initial.run (H.steps.take n) = some (H.worker n, seen) ∧
      Worker.initial.run (H.without b.caller b.first n) =
        some ((H.worker n).leave b.caller, seen) := by
  induction hfirst with
  | refl =>
      obtain ⟨seen, hrun⟩ := H.run_take b.first
      rw [H.without_self, Worker.leave_of_absent b.let_in.1]
      exact ⟨seen, hrun, hrun⟩
  | @step n hfirst ih =>
      obtain ⟨seen, hrun, hwithout⟩ := ih (Nat.le_of_succ_le hlast)
      have hlt : n < H.steps.length := Nat.lt_of_lt_of_le hlast b.last_le
      have hlabel := List.getElem?_eq_getElem hlt
      refine ⟨seen ++ H.events n, H.run_take_succ hrun hlabel, ?_⟩
      rw [without_succ hfirst hlabel]
      cases hown : H.steps[n].isOf b.caller with
      | true =>
          obtain ⟨⟨phase, hnext⟩, hevents⟩ :=
            own_step hphase hfirst hlast hlabel hown
          rw [if_pos rfl, List.append_nil, hevents, List.append_nil, hnext,
            Worker.leave_goOn_self]
          exact hwithout
      | false =>
          rw [if_neg Bool.false_ne_true]
          refine Worker.run_append_eq_some_iff.2 ⟨_, seen, _, hwithout, ?_, rfl⟩
          refine Worker.run_singleton_eq_some_iff.2 ?_
          have hstep := H.step_worker hlabel
          rcases Nat.lt_or_eq_of_le hfirst with hlater | rfl
          · exact Worker.step_leave hstep hown
              (b.present n hlater (Nat.le_of_succ_le hlast))
          · rw [b.begins] at hlabel
            rw [← Option.some.inj hlabel] at hown
            simp [Label.isOf] at hown

/-- A bind that has given up has touched nothing, and the others see the same
without it. -/
theorem Returns.nothing {e : SchemaError} (h : b.Returns (.error e)) :
    (∀ n move, b.first ≤ n → n ≤ b.last →
        H.steps[n]? = some (.caller b.caller move) →
        ∃ callers, H.worker (n + 1) = { H.worker n with callers }) ∧
      ∃ seen,
        Worker.initial.run (H.steps.take (b.last + 1)) =
          some (H.worker (b.last + 1), seen ++ [.bound b.caller (.error e)]) ∧
        Worker.initial.run b.without =
          some (H.worker (b.last + 1), seen) := by
  rcases h.cases with
    ⟨source, _, ⟨⟩, hphase, hlabel, hnext, hevents⟩ | ⟨_, ⟨⟩, _⟩
  constructor
  · intro n move hfirst hlast hown
    rcases Nat.lt_or_eq_of_le hlast with hlt | rfl
    · obtain ⟨⟨phase, heq⟩, _⟩ := own_step hphase hfirst hlt hown
        (Label.isOf_iff.2 ⟨move, rfl⟩)
      exact ⟨_, heq⟩
    · exact ⟨_, hnext⟩
  · obtain ⟨seen, hrun, hwithout⟩ :=
      exists_run_without hphase (Nat.le_of_lt b.first_lt) (Nat.le_refl _)
    refine ⟨seen, ?_, ?_⟩
    · rw [H.run_take_succ hrun hlabel, hevents]
    · rw [without, hwithout, hnext]

/-- A bind that has returned without an error has installed what its answers
describe. -/
theorem Returns.exists_installed (h : b.Returns (.ok ())) :
    ∃ j cache, b.first < j ∧ j < b.last ∧
      H.Installed j b.caller b.repository cache ∧
      Topology.inquiry.resumeAll? b.replies =
        some (.done (.ok cache.topology)) := by
  rcases h.cases with ⟨_, _, ⟨⟩, _⟩ | ⟨generation, _, hphase⟩
  obtain ⟨phase, heq, hcourse⟩ := b.exists_course b.first_lt (Nat.le_refl _)
  obtain rfl : phase = .signalling (some generation) :=
    Option.some.inj (heq.symm.trans hphase)
  exact hcourse

/-- A bind fails with its first fatal answer, and only with one. -/
theorem Returns.result_iff {result : Outcome Unit} (h : b.Returns result) :
    b.replies.map (·.call) <+: Topology.questions ∧
      (∀ e, result = .error e ↔ b.Fatal e) ∧
      (result = .ok () ↔ b.replies.map (·.call) = Topology.questions ∧
        ∀ reply ∈ b.replies, reply.fatal? = none) := by
  cases result with
  | error e =>
      rcases h.cases with ⟨_, _, ⟨⟩, hphase, _⟩ | ⟨_, ⟨⟩, _⟩
      obtain ⟨_, hreached⟩ := reached_of_binding hphase
      obtain ⟨horder, hfatal⟩ := hreached.of_error
      obtain ⟨earlier, reply, hsplit, hearlier, hreply⟩ := hfatal
      refine ⟨horder, fun e' => ⟨?_, ?_⟩, ⟨nofun, ?_⟩⟩
      · intro heq
        cases heq
        exact ⟨earlier, reply, hsplit, hearlier, hreply⟩
      · rintro ⟨earlier', reply', hsplit', _, hreply'⟩
        have hlast := hsplit.symm.trans hsplit'
        obtain ⟨_, heq⟩ := List.append_inj' hlast rfl
        cases heq
        rw [hreply] at hreply'
        exact congrArg _ (Option.some.inj hreply')
      · rintro ⟨_, hnone⟩
        have hmem : reply ∈ b.replies := by simp [hsplit]
        rw [hnone reply hmem] at hreply
        cases hreply
  | ok =>
      obtain ⟨_, _, _, _, _, hled⟩ := h.exists_installed
      obtain ⟨hnone, horder⟩ := (Topology.asks_inquiry.reached hled).of_ok
      refine ⟨⟨[], by rw [horder, List.append_nil]⟩,
        fun e => ⟨nofun, ?_⟩, fun _ => ⟨horder, hnone⟩, fun _ => rfl⟩
      rintro ⟨earlier, reply, hsplit, _, hreply⟩
      have hmem : reply ∈ b.replies := by simp [hsplit]
      rw [hnone reply hmem] at hreply
      cases hreply

end Bind

/-- A bind does everything or nothing. It asks its questions in order, each of
them only after answers that were not fatal, and it can always be brought to its
end. It returns an error if and only if an answer was fatal, and then that error
of the answer it was given last. A bind that has returned an error has touched
nothing but itself: without it the other parties take the same steps, see the
same, and leave the same worker. A bind that has returned without an error has
installed a cache with the topology that its answers describe. -/
theorem bind_all_or_nothing (b : H.Bind) :
    (∀ source inquiry,
      (H.worker b.last).callers.get? b.caller =
          some (.binding source inquiry) →
        source = b.repository ∧
        (∀ call next, inquiry = .ask call next →
          (∀ reply ∈ b.replies, reply.fatal? = none) ∧
            b.replies.map (·.call) ++ [call] <+: Topology.questions) ∧
        ∀ answer, ∃ w', (H.worker b.last).run
            ((Worker.bindMoves answer inquiry).map (.caller b.caller)) =
          some (w',
            [.bound b.caller ((inquiry.run answer).map fun _ => ())])) ∧
      (∀ result, b.Returns result →
        b.replies.map (·.call) <+: Topology.questions ∧
          (∀ e, result = .error e ↔ b.Fatal e) ∧
          (result = .ok () ↔ b.replies.map (·.call) = Topology.questions ∧
            ∀ reply ∈ b.replies, reply.fatal? = none)) ∧
      (∀ e, b.Returns (.error e) →
        (∀ n move, b.first ≤ n → n ≤ b.last →
          H.steps[n]? = some (.caller b.caller move) →
          ∃ callers, H.worker (n + 1) = { H.worker n with callers }) ∧
        ∃ seen,
          Worker.initial.run (H.steps.take (b.last + 1)) =
            some (H.worker (b.last + 1),
              seen ++ [.bound b.caller (.error e)]) ∧
          Worker.initial.run b.without =
            some (H.worker (b.last + 1), seen)) ∧
      (b.Returns (.ok ()) →
        ∃ j cache currentDatabase databases currentSchema schemas tables,
          b.first < j ∧ j < b.last ∧
          H.Installed j b.caller b.repository cache ∧
          b.replies = [⟨.currentDatabase, currentDatabase⟩,
            ⟨.databases, databases⟩, ⟨.currentSchema, .ok currentSchema⟩,
            ⟨.schemas, .ok schemas⟩, ⟨.schemaTables, .ok tables⟩] ∧
          cache.topology = .ofAnswers currentDatabase.toOption
            (databases.toOption.getD []) currentSchema schemas tables) := by
  refine ⟨?_, ?_, ?_, ?_⟩
  · intro source inquiry hphase
    obtain ⟨hsource, hreached⟩ := Bind.reached_of_binding hphase
    refine ⟨hsource, ?_, ?_⟩
    · rintro call next rfl
      exact hreached.of_ask
    · intro answer
      exact Worker.exists_run_bindMoves answer hphase
  · intro result hreturns
    exact hreturns.result_iff
  · intro e hreturns
    exact hreturns.nothing
  · intro hreturns
    obtain ⟨j, cache, hfirst, hlast, hinstalled, hled⟩ :=
      hreturns.exists_installed
    obtain ⟨currentDatabase, databases, currentSchema, schemas, tables,
      hreplies, htopology⟩ := Topology.exists_of_inquiry hled
    exact ⟨j, cache, currentDatabase, databases, currentSchema, schemas,
      tables, hfirst, hlast, hinstalled, hreplies, htopology⟩

namespace BindWitness

open DetailWitness

/-- A repository is bound that offers no names of databases, and one that cannot
be read after it, while the loop has begun to refresh. -/
def steps : List (Label String) :=
  [.bind "first", .answered .currentDatabase (.error (.notImplemented "name")),
    .answered .databases (.error (.notImplemented "names")),
    .answered .currentSchema (.ok "main"), .answered .schemas (.ok ["main"]),
    .answered .schemaTables (.ok [("main", ["users"])]), .install, .count,
    .send].map (.caller 0) ++
  [.caller 1 (.bind "second"), .loop .take,
    .caller 1 (.answered .currentDatabase (.error (.notImplemented "name"))),
    .loop .readRequests, .caller 1 (.answered .databases (.ok [])),
    .caller 1 (.answered .currentSchema (.error (.query "locked"))),
    .caller 1 .giveUp]

def history : History String := ⟨steps, rfl⟩

/-- The bind that succeeds. -/
def first : history.Bind where
  caller := 0
  repository := "first"
  first := 0
  last := 8
  begins := rfl
  letIn := rfl
  first_lt := by decide
  last_le := by decide
  present := by
    have hall : ∀ n < 9, 0 < n →
        ((history.worker n).callers.get? 0).isSome = true := by decide
    intro n hfirst hlast
    exact hall n (by omega) hfirst

/-- The bind that fails. -/
def second : history.Bind where
  caller := 1
  repository := "second"
  first := 9
  last := 15
  begins := rfl
  letIn := rfl
  first_lt := by decide
  last_le := by decide
  present := by
    have hall : ∀ n < 16, 9 < n →
        ((history.worker n).callers.get? 1).isSome = true := by decide
    intro n hfirst hlast
    exact hall n (by omega) hfirst

theorem bind_all_or_nothing_locked :
    first.Returns (.ok ()) ∧ second.Returns (.error (.query "locked")) ∧
      second.Fatal (.query "locked") ∧
      (∃ seen, Worker.initial.run second.without =
        some (history.worker 16, seen)) ∧
      ∃ j cache, history.Installed j 0 "first" cache ∧
        cache.topology.currentDatabase = none ∧
        cache.topology.databases = [] := by
  have hfirst : first.Returns (.ok ()) := .head _
  have hsecond : second.Returns (.error (.query "locked")) := .head _
  obtain ⟨_, _, _, hok⟩ := bind_all_or_nothing first
  obtain ⟨_, hresult, herror, _⟩ := bind_all_or_nothing second
  obtain ⟨_, hfatal, _⟩ := hresult _ hsecond
  obtain ⟨_, seen, _, hwithout⟩ := herror _ hsecond
  obtain ⟨j, cache, currentDatabase, databases, _, _, _, _, _, hinstalled,
    hreplies, htopology⟩ := hok hfirst
  obtain ⟨hcurrent, hrest⟩ := List.cons.inj hreplies
  obtain ⟨hdatabases, _⟩ := List.cons.inj hrest
  cases hcurrent
  cases hdatabases
  refine ⟨hfirst, hsecond, (hfatal _).1 rfl, ⟨seen, hwithout⟩, j, cache,
    hinstalled, ?_, ?_⟩
  · rw [htopology]
    rfl
  · rw [htopology]
    rfl

end BindWitness

end History

end SchemaScope

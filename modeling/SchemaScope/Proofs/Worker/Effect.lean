import SchemaScope.Proofs.Refresh
import SchemaScope.Proofs.Worker.Answers
import SchemaScope.Proofs.Worker.Signals

/-!
What one refresh does. As long as its repository gives the same answers and no
other one is bound, the steps of the loop follow from these answers, whatever
the callers do in the meantime. Main statement: columns and foreign keys are
each replaced as a whole or not at all, neither looking at what has become of
the other, and the refresh is counted and declared complete in any case. Only a
relation without pairs, which the provider of relations rules out, breaks the
loop off instead.
-/

namespace SchemaScope

/-- What the loop does in a step. -/
def Label.loopStep? {ρ : Type} : Label ρ → Option LoopStep
  | .loop step => some step
  | _ => none

/-- A step that can be taken in the course of one refresh: the loop gets these
answers, it is not broken off and does not go on to another refresh, and no
repository is bound. -/
def Label.Steady {ρ : Type} (answer : (call : Call) → Outcome call.Answer) :
    Label ρ → Prop
  | .caller _ .install => False
  | .loop .take | .loop .exit | .loop .brokenOff => False
  | .loop (.answered call outcome) => outcome = answer call
  | _ => True

/-- The steps that give the loop its answers. -/
def LoopStep.answers (answer : (call : Call) → Outcome call.Answer)
    (calls : List Call) : List LoopStep :=
  calls.map fun call => .answered call (answer call)

/-- The steps of the loop in a refresh with these answers. -/
def LoopStep.refresh (answer : (call : Call) → Outcome call.Answer)
    (schemas : List String) : List LoopStep :=
  [.readRequests, .begin] ++
    answers answer (ColumnIndex.questions (answer .databaseColumns)
      (fun schema => answer (.schemaColumns schema)) schemas) ++
    [.writeColumns] ++
    answers answer (ForeignKeyIndex.questions
      (fun schema => answer (.schemaForeignKeys schema)) schemas) ++
    [.writeForeignKeys, .countRun, .complete]

/-- The steps of the loop in a refresh that is broken off when these schemas
have been asked for their foreign keys. -/
def LoopStep.brokenRefresh (answer : (call : Call) → Outcome call.Answer)
    (schemas asked : List String) : List LoopStep :=
  [.readRequests, .begin] ++
    answers answer (ColumnIndex.questions (answer .databaseColumns)
      (fun schema => answer (.schemaColumns schema)) schemas) ++
    [.writeColumns] ++ answers answer (asked.map .schemaForeignKeys) ++
    [.writeForeignKeys]

namespace Worker

variable {ρ : Type} {w : Worker ρ} {cache : SchemaCache}

/-- Columns that could not be learnt leave the previous ones. -/
theorem cache?_writeColumns (hcache : w.cache? = some cache)
    (work : Assignment ρ) (hgeneration : cache.generation = work.generation)
    (result : Outcome ColumnIndex) :
    (w.writeColumns work result).1.cache? =
      some { cache with columns := result.toOption.getD cache.columns } := by
  cases result with
  | error e => exact hcache
  | ok columns =>
      have hwritten := cache?_updateCache hcache work.generation
        ({ · with columns })
      rwa [if_pos hgeneration] at hwritten

/-- Foreign keys that could not be learnt leave the previous ones. -/
theorem cache?_writeForeignKeys (hcache : w.cache? = some cache)
    (work : Assignment ρ) (hgeneration : cache.generation = work.generation)
    (result : Outcome ForeignKeyIndex) :
    (w.writeForeignKeys work result).1.cache? = some
      { cache with foreignKeys := result.toOption.getD cache.foreignKeys } := by
  cases result with
  | error e => exact hcache
  | ok foreignKeys =>
      have hwritten := cache?_updateCache hcache work.generation
        ({ · with foreignKeys })
      rwa [if_pos hgeneration] at hwritten

end Worker

/-- What a refresh begins with. -/
structure Errand (ρ : Type) where
  repository : ρ
  answer : (call : Call) → Outcome call.Answer
  /-- The published cache as it is before. -/
  cache : SchemaCache
  requests : Nat
  runs : Nat
  completed : Nat

namespace Errand

variable {ρ : Type} (t : Errand ρ)

/-- What is asked about. -/
def schemas : List String := t.cache.topology.schemas

/-- What the loop remembers of it. -/
def assignment : Assignment ρ := ⟨t.repository, t.schemas, t.cache.generation⟩

/-- The columns that come of a refresh. -/
def columns : ColumnIndex :=
  ColumnIndex.refreshed (t.answer .databaseColumns)
    (fun schema => t.answer (.schemaColumns schema)) t.schemas t.cache.columns

/-- The foreign keys that come of a refresh, if all relations can be filed. -/
def foreignKeys? : Option ForeignKeyIndex :=
  ((ForeignKeyIndex.inquiry t.schemas).run t.answer).toOption.getD
    (some t.cache.foreignKeys)

/-- The published cache when the columns have been written. -/
def halfway : SchemaCache := { t.cache with columns := t.columns }

/-- No refresh and no request has become complete yet. -/
def Counts (w : Worker ρ) : Prop :=
  w.runs = t.runs ∧ w.completed = t.completed

/-- The steps behind the writing of foreign keys. -/
def lastSteps : List LoopStep :=
  if t.foreignKeys?.isSome then [.countRun, .complete] else []

/-- The steps from within the questions about foreign keys to the end. -/
def foreignKeySteps (inquiry : Inquiry (Option ForeignKeyIndex)) :
    List LoopStep :=
  LoopStep.answers t.answer (inquiry.calls t.answer) ++
    .writeForeignKeys :: t.lastSteps

/-- The steps from within the questions about columns to the end. -/
def columnSteps (inquiry : Inquiry ColumnIndex) : List LoopStep :=
  LoopStep.answers t.answer (inquiry.calls t.answer) ++
    .writeColumns :: t.foreignKeySteps (ForeignKeyIndex.inquiry t.schemas)

/-- The steps of the loop that are left of a refresh, in each of its phases. -/
inductive Stage (t : Errand ρ) (w : Worker ρ) : List LoopStep → Prop where
  | counted (hloop : w.loop = .counted t.requests)
      (hbound : w.bound = some t.repository) (hcache : w.cache? = some t.cache)
      (hcounts : t.Counts w) :
      Stage t w (.begin :: t.columnSteps (ColumnIndex.inquiry t.schemas))
  | columns (inquiry : Inquiry ColumnIndex)
      (hloop : w.loop = .columns t.requests t.assignment inquiry)
      (hresult : (inquiry.run t.answer).toOption.getD t.cache.columns =
        t.columns)
      (hcache : w.cache? = some t.cache) (hcounts : t.Counts w) :
      Stage t w (t.columnSteps inquiry)
  | foreignKeys (inquiry : Inquiry (Option ForeignKeyIndex))
      (hloop : w.loop = .foreignKeys t.requests t.assignment inquiry)
      (hresult : (inquiry.run t.answer).toOption.getD
        (some t.cache.foreignKeys) = t.foreignKeys?)
      (hcache : w.cache? = some t.halfway) (hcounts : t.Counts w) :
      Stage t w (t.foreignKeySteps inquiry)
  | refreshed (foreignKeys : ForeignKeyIndex)
      (hlearnt : t.foreignKeys? = some foreignKeys)
      (hloop : w.loop = .refreshed t.requests)
      (hcache : w.cache? = some { t.halfway with foreignKeys })
      (hruns : w.runs = t.runs) : Stage t w [.countRun, .complete]
  | completing (foreignKeys : ForeignKeyIndex)
      (hlearnt : t.foreignKeys? = some foreignKeys)
      (hloop : w.loop = .completing t.requests)
      (hcache : w.cache? = some { t.halfway with foreignKeys })
      (hruns : w.runs = t.runs + 1) : Stage t w [.complete]
  | waiting (foreignKeys : ForeignKeyIndex)
      (hlearnt : t.foreignKeys? = some foreignKeys) (hloop : w.loop = .waiting)
      (hcache : w.cache? = some { t.halfway with foreignKeys })
      (hruns : w.runs = t.runs + 1) (hcompleted : w.completed = t.requests) :
      Stage t w []
  | crashed (hlearnt : t.foreignKeys? = none) (hloop : w.loop = .crashed)
      (hcache : w.cache? = some t.halfway) (hcounts : t.Counts w) :
      Stage t w []

namespace Stage

open Worker

variable {t : Errand ρ} {w w' : Worker ρ} {events : List Event}
  {left : List LoopStep} {step : LoopStep}

/-- A refresh is seen in the loop, in what is published, and in the two counts
of refreshes and of complete requests. -/
theorem congr (h : t.Stage w left) (hloop : w'.loop = w.loop)
    (hbound : w'.bound = w.bound) (hcaches : w'.caches = w.caches)
    (hruns : w'.runs = w.runs) (hcompleted : w'.completed = w.completed) :
    t.Stage w' left := by
  have hcache : w'.cache? = w.cache? := congrArg List.head? hcaches
  have hcounts {w : Worker ρ} (h : t.Counts w) (hruns : w'.runs = w.runs)
      (hcompleted : w'.completed = w.completed) : t.Counts w' :=
    ⟨hruns.trans h.1, hcompleted.trans h.2⟩
  cases h with
  | counted h₁ h₂ h₃ h₄ =>
      exact .counted (hloop.trans h₁) (hbound.trans h₂) (hcache.trans h₃)
        (hcounts h₄ hruns hcompleted)
  | columns inquiry h₁ h₂ h₃ h₄ =>
      exact .columns inquiry (hloop.trans h₁) h₂ (hcache.trans h₃)
        (hcounts h₄ hruns hcompleted)
  | foreignKeys inquiry h₁ h₂ h₃ h₄ =>
      exact .foreignKeys inquiry (hloop.trans h₁) h₂ (hcache.trans h₃)
        (hcounts h₄ hruns hcompleted)
  | refreshed foreignKeys h₁ h₂ h₃ h₄ =>
      exact .refreshed foreignKeys h₁ (hloop.trans h₂) (hcache.trans h₃)
        (hruns.trans h₄)
  | completing foreignKeys h₁ h₂ h₃ h₄ =>
      exact .completing foreignKeys h₁ (hloop.trans h₂) (hcache.trans h₃)
        (hruns.trans h₄)
  | waiting foreignKeys h₁ h₂ h₃ h₄ h₅ =>
      exact .waiting foreignKeys h₁ (hloop.trans h₂) (hcache.trans h₃)
        (hruns.trans h₄) (hcompleted.trans h₅)
  | crashed h₁ h₂ h₃ h₄ =>
      exact .crashed h₁ (hloop.trans h₂) (hcache.trans h₃)
        (hcounts h₄ hruns hcompleted)

/-- While columns are asked for, the loop takes the answer or writes what it
has learnt. -/
theorem columns_step {inquiry : Inquiry ColumnIndex}
    (hloop : w.loop = .columns t.requests t.assignment inquiry)
    (hresult : (inquiry.run t.answer).toOption.getD t.cache.columns =
      t.columns)
    (hcache : w.cache? = some t.cache) (hcounts : t.Counts w)
    (hmove : LoopMove w step w' events)
    (hsteady : (Label.loop step : Label ρ).Steady t.answer) :
    ∃ rest, t.columnSteps inquiry = step :: rest ∧ t.Stage w' rest := by
  cases hmove with
  | columnsAnswered requests work asking call outcome next hasking hnext =>
      rw [hloop] at hasking
      cases hasking
      cases inquiry with
      | done result => cases hnext
      | ask asked following =>
          obtain ⟨rfl, rfl⟩ := Inquiry.exists_of_resume?_ask hnext
          obtain rfl : outcome = t.answer call := hsteady
          exact ⟨_, rfl, .columns _ rfl hresult hcache hcounts⟩
  | writeColumns requests work result hdone =>
      rw [hloop] at hdone
      cases hdone
      obtain ⟨caches, hwritten⟩ := writeColumns_eq w t.assignment result
      have hcounts : t.Counts (w.writeColumns t.assignment result).1 := by
        rw [hwritten]
        exact hcounts
      have hcache := cache?_writeColumns hcache t.assignment rfl result
      rw [show result.toOption.getD t.cache.columns = t.columns from hresult]
        at hcache
      exact ⟨_, rfl, .foreignKeys _ rfl rfl hcache hcounts⟩
  | columnsBroken => exact hsteady.elim
  | _ => simp_all

/-- While foreign keys are asked for, the loop takes the answer or writes what
it has learnt. -/
theorem foreignKeys_step {inquiry : Inquiry (Option ForeignKeyIndex)}
    (hloop : w.loop = .foreignKeys t.requests t.assignment inquiry)
    (hresult : (inquiry.run t.answer).toOption.getD
      (some t.cache.foreignKeys) = t.foreignKeys?)
    (hcache : w.cache? = some t.halfway) (hcounts : t.Counts w)
    (hmove : LoopMove w step w' events)
    (hsteady : (Label.loop step : Label ρ).Steady t.answer) :
    ∃ rest, t.foreignKeySteps inquiry = step :: rest ∧ t.Stage w' rest := by
  cases hmove with
  | foreignKeysAnswered requests work asking call outcome next hasking hnext =>
      rw [hloop] at hasking
      cases hasking
      cases inquiry with
      | done result => cases hnext
      | ask asked following =>
          obtain ⟨rfl, rfl⟩ := Inquiry.exists_of_resume?_ask hnext
          obtain rfl : outcome = t.answer call := hsteady
          exact ⟨_, rfl, .foreignKeys _ rfl hresult hcache hcounts⟩
  | unfilable requests work hdone =>
      rw [hloop] at hdone
      cases hdone
      have hlearnt : t.foreignKeys? = none := hresult.symm
      refine ⟨_, rfl, ?_⟩
      rw [lastSteps, hlearnt]
      exact .crashed hlearnt rfl hcache hcounts
  | writeForeignKeys requests work result hdone =>
      rw [hloop] at hdone
      cases hdone
      obtain ⟨caches, hwritten⟩ := writeForeignKeys_eq w t.assignment result
      have hruns :
          (w.writeForeignKeys t.assignment result).1.runs = t.runs := by
        rw [hwritten]
        exact hcounts.1
      have hlearnt : t.foreignKeys? =
          some (result.toOption.getD t.cache.foreignKeys) := by
        cases result <;> exact hresult.symm
      have hcache := cache?_writeForeignKeys hcache t.assignment rfl result
      refine ⟨_, rfl, ?_⟩
      rw [lastSteps, hlearnt]
      exact .refreshed _ hlearnt rfl hcache hruns
  | foreignKeysBroken => exact hsteady.elim
  | _ => simp_all

/-- A step of the loop is the first of those that are left. -/
theorem loopMove (h : t.Stage w left) (hmove : LoopMove w step w' events)
    (hsteady : (Label.loop step : Label ρ).Steady t.answer) :
    ∃ rest, left = step :: rest ∧ t.Stage w' rest := by
  -- Each phase but the two of questions lets the loop take one step only.
  cases h with
  | counted hloop hbound hcache hcounts =>
      cases hmove with
      | begin requests hcounted =>
          rw [hloop] at hcounted
          cases hcounted
          have hbegun : w.beginRefresh t.requests =
              .columns t.requests t.assignment
                (ColumnIndex.inquiry t.schemas) := by
            rw [beginRefresh, hbound, hcache]
            rfl
          exact ⟨_, rfl, .columns _ hbegun (ColumnIndex.run_inquiry _ _)
            hcache hcounts⟩
      | _ => simp_all
  | columns inquiry hloop hresult hcache hcounts =>
      exact columns_step hloop hresult hcache hcounts hmove hsteady
  | foreignKeys inquiry hloop hresult hcache hcounts =>
      exact foreignKeys_step hloop hresult hcache hcounts hmove hsteady
  | refreshed foreignKeys hlearnt hloop hcache hruns =>
      cases hmove with
      | countRun requests hrefreshed =>
          rw [hloop] at hrefreshed
          cases hrefreshed
          exact ⟨_, rfl, .completing foreignKeys hlearnt rfl hcache
            (congrArg (· + 1) hruns)⟩
      | _ => simp_all
  | completing foreignKeys hlearnt hloop hcache hruns =>
      cases hmove with
      | complete requests hcompleting =>
          rw [hloop] at hcompleting
          cases hcompleting
          exact ⟨_, rfl, .waiting foreignKeys hlearnt rfl hcache hruns rfl⟩
      | _ => simp_all
  | waiting _ _ hloop =>
      cases hmove with
      | exit | take => exact hsteady.elim
      | _ => simp_all
  | crashed _ hloop =>
      have hover := hmove.isOver_eq_false
      rw [hloop] at hover
      cases hover

/-- As long as steps are left, the loop can go on. -/
theorem exists_loopMove (h : t.Stage w left) (hleft : left ≠ []) :
    ∃ step w' events, LoopMove w step w' events ∧
      (Label.loop step : Label ρ).Steady t.answer := by
  cases h with
  | counted hloop => exact ⟨_, _, _, .begin _ hloop, trivial⟩
  | columns inquiry hloop =>
      cases inquiry with
      | done result => exact ⟨_, _, _, .writeColumns _ _ _ hloop, trivial⟩
      | ask call next =>
          exact ⟨_, _, _, .columnsAnswered _ _ _ call (t.answer call) _ hloop
            (dif_pos rfl), rfl⟩
  | foreignKeys inquiry hloop =>
      cases inquiry with
      | done result =>
          rcases result with e | _ | foreignKeys
          · exact ⟨_, _, _, .writeForeignKeys _ _ (.error e) hloop, trivial⟩
          · exact ⟨_, _, _, .unfilable _ _ hloop, trivial⟩
          · exact ⟨_, _, _, .writeForeignKeys _ _ (.ok foreignKeys) hloop,
              trivial⟩
      | ask call next =>
          exact ⟨_, _, _, .foreignKeysAnswered _ _ _ call (t.answer call) _
            hloop (dif_pos rfl), rfl⟩
  | refreshed _ _ hloop => exact ⟨_, _, _, .countRun _ hloop, trivial⟩
  | completing _ _ hloop => exact ⟨_, _, _, .complete _ hloop, trivial⟩
  | waiting | crashed => exact absurd rfl hleft

/-- The step that the loop can take is the first of those that are left. -/
theorem isSome_step {rest : List LoopStep} (h : t.Stage w (step :: rest)) :
    (w.step (.loop step)).isSome := by
  obtain ⟨taken, w', events, hmove, hsteady⟩ :=
    h.exists_loopMove (List.cons_ne_nil step rest)
  obtain ⟨_, heq, _⟩ := h.loopMove hmove hsteady
  rw [(List.cons.inj heq).1, hmove.step_eq]
  rfl

/-- Nobody but the loop goes on with a refresh. -/
theorem of_step {label : Label ρ} (h : t.Stage w left)
    (hstep : w.step label = some (w', events))
    (hsteady : label.Steady t.answer) :
    ∃ rest, left = (Label.loopStep? label).toList ++ rest ∧
      t.Stage w' rest := by
  cases label with
  | caller id move =>
      have hmove := callerMove_of_step hstep
      have hinstall : move ≠ .install := by
        rintro rfl
        exact hsteady
      obtain ⟨hbound, hcaches, _⟩ := hmove.published_eq hinstall
      exact ⟨left, rfl, h.congr hmove.loop_eq hbound hcaches hmove.runs_eq
        hmove.completed_eq⟩
  | loop step => exact h.loopMove (loopMove_of_step hstep) hsteady
  | drop =>
      obtain ⟨rfl, _⟩ := eq_of_drop hstep
      exact ⟨left, rfl, h.congr rfl rfl rfl rfl rfl⟩

/-- A run takes its steps off those that are left. -/
theorem of_run {labels : List (Label ρ)} (h : t.Stage w left)
    (hrun : w.run labels = some (w', events))
    (hsteady : ∀ label ∈ labels, label.Steady t.answer) :
    ∃ rest, left = labels.filterMap Label.loopStep? ++ rest ∧
      t.Stage w' rest := by
  induction labels generalizing w left events with
  | nil =>
      cases hrun
      exact ⟨left, rfl, h⟩
  | cons label labels ih =>
      obtain ⟨next, now, later, hstep, hlater, rfl⟩ :=
        run_cons_eq_some_iff.1 hrun
      obtain ⟨hfirst, hrest⟩ := List.forall_mem_cons.1 hsteady
      obtain ⟨middle, rfl, hmiddle⟩ := h.of_step hstep hfirst
      obtain ⟨rest, rfl, hstage⟩ := ih hmiddle hlater hrest
      refine ⟨rest, ?_, hstage⟩
      cases hlabel : label.loopStep? with
      | none => rw [List.filterMap_cons_none hlabel]; rfl
      | some step => rw [List.filterMap_cons_some hlabel]; rfl

/-- At no time is anything published that is not as before or as learnt. -/
theorem exists_cache? (h : t.Stage w left) :
    ∃ columns foreignKeys,
      w.cache? = some { t.cache with columns, foreignKeys } ∧
      (columns = t.cache.columns ∨ columns = t.columns) ∧
      (foreignKeys = t.cache.foreignKeys ∨
        t.foreignKeys? = some foreignKeys) := by
  cases h with
  | counted _ _ hcache | columns _ _ _ hcache =>
      exact ⟨_, _, hcache, .inl rfl, .inl rfl⟩
  | foreignKeys _ _ _ hcache | crashed _ _ hcache =>
      exact ⟨_, _, hcache, .inr rfl, .inl rfl⟩
  | refreshed foreignKeys hlearnt _ hcache
  | completing foreignKeys hlearnt _ hcache
  | waiting foreignKeys hlearnt _ hcache =>
      exact ⟨_, _, hcache, .inr rfl, .inr hlearnt⟩

/-- When no step is left, all that has been learnt is published, or the loop
has been broken off. -/
theorem ended (h : t.Stage w []) :
    (∃ foreignKeys, t.foreignKeys? = some foreignKeys ∧ w.loop = .waiting ∧
        w.cache? = some { t.halfway with foreignKeys } ∧
        w.runs = t.runs + 1 ∧ w.completed = t.requests) ∨
      t.foreignKeys? = none ∧ w.loop = .crashed ∧
        w.cache? = some t.halfway ∧ t.Counts w := by
  generalize hleft : ([] : List LoopStep) = left at h
  cases h with
  | columns => simp [columnSteps] at hleft
  | foreignKeys => simp [foreignKeySteps] at hleft
  | counted | refreshed | completing => cases hleft
  | waiting foreignKeys hlearnt hloop hcache hruns hcompleted =>
      exact .inl ⟨foreignKeys, hlearnt, hloop, hcache, hruns, hcompleted⟩
  | crashed hlearnt hloop hcache hcounts =>
      exact .inr ⟨hlearnt, hloop, hcache, hcounts⟩

end Stage

/-- The steps of a refresh whose number of requests is read first. -/
def steps : List LoopStep :=
  .readRequests :: .begin :: t.columnSteps (ColumnIndex.inquiry t.schemas)

theorem steps_eq_refresh {foreignKeys : ForeignKeyIndex}
    (hfilable : ForeignKeyIndex.Filable
      (fun schema => t.answer (.schemaForeignKeys schema)) t.schemas)
    (hlearnt : t.foreignKeys? = some foreignKeys) :
    t.steps = LoopStep.refresh t.answer t.schemas := by
  rw [LoopStep.refresh, steps, columnSteps, foreignKeySteps, lastSteps, hlearnt,
    ColumnIndex.calls_inquiry, ForeignKeyIndex.calls_inquiry hfilable]
  simp

/-- No foreign keys come of a refresh just in case that a relation turns up
that cannot be filed. -/
theorem foreignKeys?_eq_none_iff :
    t.foreignKeys? = none ↔ ∃ asked, ForeignKeyIndex.Unfilable
      (fun schema => t.answer (.schemaForeignKeys schema)) t.schemas asked := by
  rw [foreignKeys?, ForeignKeyIndex.inquiry]
  constructor
  · intro hnone
    cases hrun : (ForeignKeyIndex.inquireSchemas .empty t.schemas).run
        t.answer with
    | ok learnt =>
        rw [hrun] at hnone
        obtain rfl : learnt = none := hnone
        exact ForeignKeyIndex.exists_unfilable hrun
    | error e =>
        rw [hrun] at hnone
        cases hnone
  · rintro ⟨asked, hasked⟩
    rw [(hasked.inquireSchemas_eq .empty).1]
    rfl

theorem steps_eq_brokenRefresh {asked : List String}
    (hunfilable : ForeignKeyIndex.Unfilable
      (fun schema => t.answer (.schemaForeignKeys schema)) t.schemas asked) :
    t.steps = LoopStep.brokenRefresh t.answer t.schemas asked := by
  have hnone := t.foreignKeys?_eq_none_iff.2 ⟨asked, hunfilable⟩
  rw [LoopStep.brokenRefresh, steps, columnSteps, foreignKeySteps, lastSteps,
    hnone, ColumnIndex.calls_inquiry, ForeignKeyIndex.inquiry,
    (hunfilable.inquireSchemas_eq .empty).2]
  simp

end Errand

namespace Worker

variable {ρ : Type} {w w' : Worker ρ} {repository : ρ} {cache : SchemaCache}
  {answer : (call : Call) → Outcome call.Answer} {labels : List (Label ρ)}
  {events : List Event}

/-- What a refresh begins with that is about to read the number of requests. -/
def errand (w : Worker ρ) (repository : ρ) (cache : SchemaCache)
    (answer : (call : Call) → Outcome call.Answer) : Errand ρ where
  repository
  answer
  cache
  requests := w.requested
  runs := w.runs
  completed := w.completed

/-- A loop that is over takes no step in any run. -/
theorem loopSteps_eq_nil (hover : w.loop.isOver = true)
    (hrun : w.run labels = some (w', events)) :
    labels.filterMap Label.loopStep? = [] := by
  induction labels generalizing w events with
  | nil => rfl
  | cons label labels ih =>
      obtain ⟨next, now, later, hstep, hlater, rfl⟩ :=
        run_cons_eq_some_iff.1 hrun
      have hrest := ih (isOver_of_step hstep hover) hlater
      cases label with
      | caller | drop => exact hrest
      | loop step =>
          rw [(loopMove_of_step hstep).isOver_eq_false] at hover
          cases hover

theorem exists_stage (hbound : w.bound = some repository)
    (hcache : w.cache? = some cache)
    (hsteady : ∀ label ∈ labels, label.Steady answer)
    (hrun : w.run (.loop .readRequests :: labels) = some (w', events)) :
    ∃ left, (w.errand repository cache answer).steps =
        .readRequests :: labels.filterMap Label.loopStep? ++ left ∧
      (w.errand repository cache answer).Stage w' left := by
  obtain ⟨next, now, later, hstep, hlater, rfl⟩ := run_cons_eq_some_iff.1 hrun
  let t := w.errand repository cache answer
  have hcounted : t.Stage next
      (.begin :: t.columnSteps (ColumnIndex.inquiry t.schemas)) := by
    cases loopMove_of_step hstep with
    | readRequests => exact .counted rfl hbound hcache ⟨rfl, rfl⟩
  obtain ⟨left, hleft, hstage⟩ := hcounted.of_run hlater hsteady
  exact ⟨left, congrArg (LoopStep.readRequests :: ·) hleft, hstage⟩

/-- From the time when the number of requests has been read, the steps of the
loop are those of a refresh with the answers of its repository, in this order;
as long as some are left, the next one can be taken. Nothing is published
meanwhile but the columns and the foreign keys as they were before, or those
that the refresh learns, each as a whole. When no step is left, those that it
learns are published, it has been counted, and the requests that it has seen
are complete. All relations that are answered have pairs, which is what they
are said to be; `refresh_brokenOff` tells what happens otherwise. -/
theorem refresh_effect
    (hbound : w.bound = some repository) (hcache : w.cache? = some cache)
    (hfilable : ForeignKeyIndex.Filable
      (fun schema => answer (.schemaForeignKeys schema)) cache.topology.schemas)
    (hsteady : ∀ label ∈ labels, label.Steady answer)
    (hrun : w.run (.loop .readRequests :: labels) = some (w', events)) :
    ∃ columns foreignKeys left,
      columns = ColumnIndex.refreshed (answer .databaseColumns)
        (fun schema => answer (.schemaColumns schema)) cache.topology.schemas
        cache.columns ∧
      ForeignKeyIndex.refreshed?
        (fun schema => answer (.schemaForeignKeys schema))
        cache.topology.schemas cache.foreignKeys = some foreignKeys ∧
      LoopStep.refresh answer cache.topology.schemas =
        .readRequests :: labels.filterMap Label.loopStep? ++ left ∧
      (∀ step rest, left = step :: rest → (w'.step (.loop step)).isSome) ∧
      (∃ shownColumns shownForeignKeys,
        w'.cache? = some { cache with
          columns := shownColumns, foreignKeys := shownForeignKeys } ∧
        (shownColumns = cache.columns ∨ shownColumns = columns) ∧
        (shownForeignKeys = cache.foreignKeys ∨
          shownForeignKeys = foreignKeys)) ∧
      (left = [] →
        w'.loop = .waiting ∧
        w'.cache? = some { cache with columns, foreignKeys } ∧
        w'.runs = w.runs + 1 ∧ w'.completed = w.requested) := by
  obtain ⟨foreignKeys, hlearnt⟩ :=
    ForeignKeyIndex.exists_refreshed? hfilable cache.foreignKeys
  let t := w.errand repository cache answer
  have hforeignKeys : t.foreignKeys? = some foreignKeys :=
    (ForeignKeyIndex.run_inquiry hfilable cache.foreignKeys).trans hlearnt
  obtain ⟨left, hsteps, hstage⟩ := exists_stage hbound hcache hsteady hrun
  refine ⟨t.columns, foreignKeys, left, rfl, hlearnt,
    (t.steps_eq_refresh hfilable hforeignKeys).symm.trans hsteps, ?_, ?_, ?_⟩
  · rintro step rest rfl
    exact hstage.isSome_step
  · obtain ⟨shownColumns, shownForeignKeys, hshown, hcolumns, hlearntOnly⟩ :=
      hstage.exists_cache?
    refine ⟨shownColumns, shownForeignKeys, hshown, hcolumns, ?_⟩
    refine hlearntOnly.imp_right fun hsome => ?_
    exact Option.some.inj (hsome.symm.trans hforeignKeys)
  · rintro rfl
    rcases hstage.ended with ⟨_, hsome, hended⟩ | ⟨hnone, _⟩
    · obtain rfl := Option.some.inj (hsome.symm.trans hforeignKeys)
      exact hended
    · exact nomatch hforeignKeys.symm.trans hnone

/-- If a relation without pairs is answered, the refresh goes on until then and
no further: when no step is left, the columns that it learns are published, the
foreign keys are as before, nothing has been counted or become complete, and
the loop takes no step any more. -/
theorem refresh_brokenOff {asked : List String}
    (hbound : w.bound = some repository) (hcache : w.cache? = some cache)
    (hunfilable : ForeignKeyIndex.Unfilable
      (fun schema => answer (.schemaForeignKeys schema)) cache.topology.schemas
      asked)
    (hsteady : ∀ label ∈ labels, label.Steady answer)
    (hrun : w.run (.loop .readRequests :: labels) = some (w', events)) :
    ∃ columns left,
      columns = ColumnIndex.refreshed (answer .databaseColumns)
        (fun schema => answer (.schemaColumns schema)) cache.topology.schemas
        cache.columns ∧
      LoopStep.brokenRefresh answer cache.topology.schemas asked =
        .readRequests :: labels.filterMap Label.loopStep? ++ left ∧
      (∀ step rest, left = step :: rest → (w'.step (.loop step)).isSome) ∧
      (left = [] →
        w'.loop = .crashed ∧ w'.cache? = some { cache with columns } ∧
        w'.runs = w.runs ∧ w'.completed = w.completed ∧
        ∀ more w'' events, w'.run more = some (w'', events) →
          more.filterMap Label.loopStep? = []) := by
  let t := w.errand repository cache answer
  obtain ⟨left, hsteps, hstage⟩ := exists_stage hbound hcache hsteady hrun
  refine ⟨t.columns, left, rfl,
    (t.steps_eq_brokenRefresh hunfilable).symm.trans hsteps, ?_, ?_⟩
  · rintro step rest rfl
    exact hstage.isSome_step
  · rintro rfl
    rcases hstage.ended with
      ⟨_, hsome, _⟩ | ⟨_, hloop, hcache, hruns, hcompleted⟩
    · have hnone := t.foreignKeys?_eq_none_iff.2 ⟨asked, hunfilable⟩
      exact nomatch hsome.symm.trans hnone
    · have hover : w'.loop.isOver = true := by
        rw [hloop]
        rfl
      exact ⟨hloop, hcache, hruns, hcompleted,
        fun _ _ _ => loopSteps_eq_nil hover⟩

namespace EffectWitness

def column (schema : String) : Column :=
  { id := ⟨schema, "users", "id"⟩, dataType := "INT" }

def relation (schema : String) : Relation :=
  .single ⟨⟨schema, "users", "id"⟩, ⟨schema, "users", "parent"⟩⟩

/-- Columns are described schema by schema only, and those of the second schema
are not to be had; foreign keys are. -/
def told : (call : Call) → Outcome call.Answer
  | .databaseColumns => .error (.notImplemented "describe_database_columns")
  | .schemaColumns "a" => .ok [column "a"]
  | .schemaColumns _ => .error (.query "lost")
  | .schemaForeignKeys schema => .ok [relation schema]
  | call => call.unanswered

/-- A cache with columns and without foreign keys. -/
def known : SchemaCache where
  generation := 1
  topology := .ofAnswers none [] "a" ["a", "b"] []
  columns := .ofColumns [column "b"]

/-- A worker whose loop has taken a signal. -/
def start : Worker Unit :=
  { bound := some (), caches := [known], generation := 1, requested := 1,
    loop := .signalled }

/-- A refresh, and in the middle of it another request. -/
def steps : List (Label Unit) :=
  [.loop .begin,
    .loop (.answered .databaseColumns (told .databaseColumns)),
    .caller 0 .request,
    .loop (.answered (.schemaColumns "a") (told (.schemaColumns "a"))),
    .caller 0 .count,
    .loop (.answered (.schemaColumns "b") (told (.schemaColumns "b"))),
    .loop .writeColumns,
    .loop (.answered (.schemaForeignKeys "a") (told (.schemaForeignKeys "a"))),
    .caller 0 .send,
    .loop (.answered (.schemaForeignKeys "b") (told (.schemaForeignKeys "b"))),
    .loop .writeForeignKeys, .loop .countRun, .loop .complete]

theorem steady_steps : ∀ label ∈ steps, label.Steady told := by
  simp [steps, Label.Steady]

theorem filable : ForeignKeyIndex.Filable
    (fun schema => told (.schemaForeignKeys schema))
    known.topology.schemas := by
  intro schema _ relations hrelations r hr
  cases hrelations
  rw [List.mem_singleton.1 hr]
  exact List.cons_ne_nil _ _

/-- The columns stay as they were, although those of one schema were described;
the foreign keys are replaced. The request in the middle is not complete. -/
theorem refresh_effect_partial :
    ∃ w' events, start.run (.loop .readRequests :: steps) = some (w', events) ∧
      (∃ foreignKeys : ForeignKeyIndex,
        w'.cache? = some { known with foreignKeys } ∧
        foreignKeys.get "a" "users" = [relation "a"] ∧
        foreignKeys.get "b" "users" = [relation "b"]) ∧
      w'.loop = .waiting ∧ w'.runs = 1 ∧ w'.completed = 1 ∧
      w'.requested = 2 := by
  have hrun : (start.run (.loop .readRequests :: steps)).isSome := rfl
  obtain ⟨⟨w', events⟩, hrun⟩ := Option.isSome_iff_exists.1 hrun
  obtain ⟨columns, foreignKeys, left, hcolumns, hforeignKeys, hsteps, _, _,
    hended⟩ := refresh_effect rfl rfl filable steady_steps hrun
  have hleft : left = [] := by
    have hlength := congrArg List.length hsteps
    rw [List.length_append] at hlength
    exact List.length_eq_zero_iff.1 (Nat.left_eq_add.1 hlength)
  obtain ⟨hloop, hcache, hruns, hcompleted⟩ := hended hleft
  obtain rfl : columns = known.columns := hcolumns
  have hget : ∀ schema ∈ ["a", "b"],
      (ForeignKeyIndex.refreshed?
        (fun schema => told (.schemaForeignKeys schema))
        known.topology.schemas known.foreignKeys).map (·.get schema "users") =
          some [relation schema] := by
    decide +kernel
  rw [hforeignKeys] at hget
  have hrequested : (start.run (.loop .readRequests :: steps)).map
      (·.1.requested) = some 2 := rfl
  rw [hrun] at hrequested
  exact ⟨w', events, hrun,
    ⟨foreignKeys, hcache, Option.some.inj (hget "a" (by simp)),
      Option.some.inj (hget "b" (by simp))⟩,
    hloop, hruns, hcompleted, Option.some.inj hrequested⟩

end EffectWitness

end Worker

end SchemaScope

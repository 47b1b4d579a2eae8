import SchemaScope.Proofs.Session.Runs
import SchemaScope.Proofs.Worker.Turns

/-!
Connections that a session makes. Main statements: a connection fails at one of
five stages, which decides its error; one that fails leaves nothing behind but
the error, and one that is made installs a cache and asks for a refresh.
-/

namespace SchemaScope

namespace Connection

variable {c : Connection} {database : String → Except String Sqlite.Catalog}

theorem connect_of_invalid {e : ConnectionError}
    (hinvalid : c.validate = .error e) :
    c.connect database = .error e.toSchemaError := by
  rw [connect, hinvalid]
  rfl

theorem connect_of_unsupported (hvalid : c.validate = .ok ())
    (hdialect : c.dialect ≠ .sqlite) :
    c.connect database = .error (.unsupportedDriver c.dialect.name) := by
  rw [connect, hvalid]
  cases heq : c.dialect with
  | sqlite => exact absurd heq hdialect
  | _ => rfl

/-- A connection to a file is always described well enough. -/
theorem validate_of_sqlite (hdialect : c.dialect = .sqlite) :
    c.validate = .ok () := by
  rw [validate, hdialect]
  rfl

theorem connect_of_unopened (hdialect : c.dialect = .sqlite)
    {reason : String} (hclosed : database c.source = .error reason) :
    c.connect database =
      .error (.connectionFailed (c.source ++ ": " ++ reason)) := by
  rw [connect, validate_of_sqlite hdialect, hdialect, hclosed]
  rfl

theorem connect_of_opened (hdialect : c.dialect = .sqlite)
    {catalog : Sqlite.Catalog} (hopen : database c.source = .ok catalog) :
    c.connect database = .ok catalog.repository := by
  rw [connect, validate_of_sqlite hdialect, hdialect, hopen]
  rfl

end Connection

namespace Session

variable {s s' : Session}

/-- Why a connection cannot be made, in the order in which that shows. -/
inductive ConnectFails (world : World) (s : Session) (c : Connection) :
    SchemaError → Prop where
  | invalid (e : ConnectionError) (hinvalid : c.validate = .error e) :
      ConnectFails world s c e.toSchemaError
  | unsupported (hvalid : c.validate = .ok ())
      (hdialect : c.dialect ≠ .sqlite) :
      ConnectFails world s c (.unsupportedDriver c.dialect.name)
  | unopened (reason : String) (hdialect : c.dialect = .sqlite)
      (hclosed : world.database c.source = .error reason) :
      ConnectFails world s c (.connectionFailed (c.source ++ ": " ++ reason))
  | stopped (catalog : Sqlite.Catalog) (hdialect : c.dialect = .sqlite)
      (hopen : world.database c.source = .ok catalog)
      (hstopped : s.turns.worker.stopped = true) :
      ConnectFails world s c .workerStopped
  | unread (catalog : Sqlite.Catalog) (e : SchemaError)
      (hdialect : c.dialect = .sqlite)
      (hopen : world.database c.source = .ok catalog)
      (hgoing : s.turns.worker.stopped = false)
      (hfatal : Topology.inquiry.run catalog.repository.answer = .error e) :
      ConnectFails world s c e

/-- What is returned to a caller that has come alone. -/
theorem bindResult?_of_sleep {t t' : Turns Unit Repository}
    {result : Outcome Unit} (hevents : t.events = [])
    (h : t'.sleep.events = t.events ++ [.bound 0 result]) :
    t'.bindResult? 0 = some (some result) := by
  have heq : t'.events = [.bound 0 result] := by
    rw [hevents] at h
    exact h
  rw [Turns.bindResult?, heq]
  rfl

/-- Nobody is in the middle of a message, and nothing is left to report. -/
structure Alone (s : Session) : Prop where
  absent : s.turns.worker.callers.get? 0 = none
  events : s.turns.events = []

section Connect

variable {world : World} {c : Connection} {repository : Repository}

theorem connect_of_stopped (hs : s.Alone)
    (hopen : c.connect world.database = .ok repository)
    (hstopped : s.turns.worker.stopped = true) :
    (s.connect world c).2 = .error .workerStopped ∧
      (s.connect world c).1.turns.sleep =
        { s.turns.sleep with
          events := [.bound 0 (.error .workerStopped)] } := by
  have hsleep := Turns.sleep_bind_of_stopped repository hs.absent hstopped
  have hresult := bindResult?_of_sleep hs.events (congrArg Turns.events hsleep)
  rw [hs.events] at hsleep
  simp only [connect, hopen, hresult]
  exact ⟨rfl, hsleep⟩

theorem connect_of_fatal {e : SchemaError} (hs : s.Alone)
    (hopen : c.connect world.database = .ok repository)
    (hgoing : s.turns.worker.stopped = false)
    (hrun : Topology.inquiry.run repository.answer = .error e) :
    (s.connect world c).2 = .error e ∧
      (s.connect world c).1.turns.sleep =
        { s.turns.sleep with events := [.bound 0 (.error e)] } := by
  have hsleep := Turns.sleep_bind_of_error hs.absent hgoing hrun
  have hresult := bindResult?_of_sleep hs.events (congrArg Turns.events hsleep)
  rw [hs.events] at hsleep
  simp only [connect, hopen, hresult]
  exact ⟨rfl, hsleep⟩

theorem connect_of_topology {topology : Topology} (hs : s.Alone)
    (hopen : c.connect world.database = .ok repository)
    (hgoing : s.turns.worker.stopped = false)
    (hrun : Topology.inquiry.run repository.answer = .ok topology) :
    (s.connect world c).2 = .ok () ∧
      (s.connect world c).1.turns.sleep =
        { s.turns.sleep with
          worker := { s.turns.worker.install repository topology with
            requested := s.turns.worker.requested + 1 }.signalled
          events := [.bound 0 (.ok ())] } := by
  have hsleep := Turns.sleep_bind_of_ok hs.absent hgoing hrun
  have hresult := bindResult?_of_sleep hs.events (congrArg Turns.events hsleep)
  rw [hs.events] at hsleep
  simp only [connect, hopen, hresult]
  exact ⟨rfl, hsleep⟩

theorem ConnectFails.result_eq (hs : s.Alone) {e : SchemaError}
    (h : ConnectFails world s c e) : (s.connect world c).2 = .error e := by
  cases h with
  | invalid e hinvalid =>
      rw [connect_of_error (Connection.connect_of_invalid hinvalid)]
  | unsupported hvalid hdialect =>
      rw [connect_of_error (Connection.connect_of_unsupported hvalid hdialect)]
  | unopened reason hdialect hclosed =>
      rw [connect_of_error (Connection.connect_of_unopened hdialect hclosed)]
  | stopped catalog hdialect hopen hstopped =>
      have hconnect := Connection.connect_of_opened hdialect hopen
      exact (connect_of_stopped hs hconnect hstopped).1
  | unread catalog e hdialect hopen hgoing hfatal =>
      have hconnect := Connection.connect_of_opened hdialect hopen
      exact (connect_of_fatal hs hconnect hgoing hfatal).1

/-- The stage at which a connection fails decides its error. -/
theorem connect_error_iff (hs : s.Alone) {e : SchemaError} :
    (s.connect world c).2 = .error e ↔ ConnectFails world s c e := by
  refine ⟨fun herror => ?_, fun h => h.result_eq hs⟩
  cases hvalid : c.validate with
  | error fault =>
      rw [connect_of_error (Connection.connect_of_invalid hvalid)] at herror
      cases herror
      exact .invalid fault hvalid
  | ok =>
      by_cases hdialect : c.dialect = .sqlite
      · cases hopen : world.database c.source with
        | error reason =>
            rw [connect_of_error
              (Connection.connect_of_unopened hdialect hopen)] at herror
            cases herror
            exact .unopened reason hdialect hopen
        | ok catalog =>
            have hconnect := Connection.connect_of_opened hdialect hopen
            cases hstopped : s.turns.worker.stopped with
            | true =>
                rw [(connect_of_stopped hs hconnect hstopped).1] at herror
                cases herror
                exact .stopped catalog hdialect hopen hstopped
            | false =>
                cases hrun : Topology.inquiry.run catalog.repository.answer with
                | error fault =>
                    rw [(connect_of_fatal hs hconnect hstopped hrun).1]
                      at herror
                    cases herror
                    exact .unread catalog e hdialect hopen hstopped hrun
                | ok topology =>
                    rw [(connect_of_topology hs hconnect hstopped hrun).1]
                      at herror
                    cases herror
      · rw [connect_of_error
          (Connection.connect_of_unsupported hvalid hdialect)] at herror
        cases herror
        exact .unsupported hvalid hdialect

/-- A connection that is not made leaves nothing behind but its error. One that
is made installs a cache and asks for a refresh. -/
theorem connect_result (hs : s.Alone) (world : World) (c : Connection) :
    (∃ e events, (s.connect world c).2 = .error e ∧
        (s.connect world c).1.turns.sleep =
          { s.turns.sleep with events := events }) ∨
      ∃ repository topology events, (s.connect world c).2 = .ok () ∧
        (s.connect world c).1.turns.sleep =
          { s.turns.sleep with
            worker := { s.turns.worker.install repository topology with
              requested := s.turns.worker.requested + 1 }.signalled
            events := events } := by
  cases hopen : c.connect world.database with
  | error e =>
      rw [connect_of_error hopen]
      exact .inl ⟨e, s.turns.events, rfl, rfl⟩
  | ok repository =>
      cases hstopped : s.turns.worker.stopped with
      | true =>
          obtain ⟨hresult, hsleep⟩ := connect_of_stopped hs hopen hstopped
          exact .inl ⟨_, _, hresult, hsleep⟩
      | false =>
          cases hrun : Topology.inquiry.run repository.answer with
          | error e =>
              obtain ⟨hresult, hsleep⟩ :=
                connect_of_fatal hs hopen hstopped hrun
              exact .inl ⟨_, _, hresult, hsleep⟩
          | ok topology =>
              obtain ⟨hresult, hsleep⟩ :=
                connect_of_topology hs hopen hstopped hrun
              exact .inr ⟨_, _, _, hresult, hsleep⟩

theorem absent_connect (hs : s.Alone) (world : World) (c : Connection) :
    (s.connect world c).1.turns.worker.callers.get? 0 = none := by
  rcases connect_result hs world c with
    ⟨_, _, _, hsleep⟩ | ⟨_, _, _, _, hsleep⟩
  · rw [Turns.worker_of_sleep hsleep]
    exact hs.absent
  · rw [Turns.worker_of_sleep hsleep]
    exact hs.absent

theorem connect_congr (ht : s.turns.sleep = s'.turns.sleep) (world : World)
    (c : Connection) :
    (s.connect world c).2 = (s'.connect world c).2 ∧
      (s.connect world c).1.turns.sleep =
        (s'.connect world c).1.turns.sleep := by
  unfold connect
  cases c.connect world.database with
  | error e => exact ⟨rfl, ht⟩
  | ok repository =>
      have hsleep := Turns.bind_congr .ofRepositories ht 0 repository
      obtain ⟨_, _, hevents⟩ := Turns.same_of_sleep hsleep
      refine ⟨?_, hsleep⟩
      simp only [Turns.bindResult?, hevents]

end Connect

end Session

end SchemaScope

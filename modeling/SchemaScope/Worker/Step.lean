import SchemaScope.Worker.State

/-!
The steps of a refresh worker. A step is what one party does without any other
coming in between; which party goes next is open. Callers and the loop share
nothing but the fields of the worker, and a lock makes one step of each access
to the repository together with the cache.
-/

namespace SchemaScope

inductive CallerStep (ρ : Type) where
  /-- Come in with a repository to be bound, and see whether the worker takes
  one. -/
  | bind (repository : ρ)
  /-- Get the answer to the question that is being asked. -/
  | answered (call : Call) (outcome : Outcome call.Answer)
  /-- Be broken off inside a question. -/
  | brokenOff
  /-- Return the error that the questions have led to. -/
  | giveUp
  /-- Install the cache that the questions have led to. -/
  | install
  /-- Come in with a request for a refresh. -/
  | request
  /-- Count a request. -/
  | count
  /-- Leave the signal of a request. -/
  | send
  /-- Come in to ask for readiness, and read how many requests are complete. -/
  | readCompleted
  /-- Read how many requests there are, and return. -/
  | readRequested
  /-- Come in to stop the worker. -/
  | stop
  /-- Mark the worker as stopped. -/
  | mark
  /-- Tell the loop to end. -/
  | dismiss

inductive LoopStep where
  /-- Take the signal. -/
  | take
  /-- End, having been told to. -/
  | exit
  /-- Read the number of requests. -/
  | readRequests
  /-- Read repository and cache and begin to ask. -/
  | begin
  /-- Get the answer to the question that is being asked. -/
  | answered (call : Call) (outcome : Outcome call.Answer)
  /-- Be broken off inside a question. -/
  | brokenOff
  /-- Write what has been learnt about columns. -/
  | writeColumns
  /-- Write what has been learnt about foreign keys. -/
  | writeForeignKeys
  /-- Count the refresh. -/
  | countRun
  /-- Declare complete the requests that have been seen. -/
  | complete

/-- A step of one of the parties. -/
inductive Label (ρ : Type) where
  | caller (id : Nat) (step : CallerStep ρ)
  | loop (step : LoopStep)
  /-- The worker is given up; nobody is in the middle of calling it. -/
  | drop

/-- What is reported without being returned to anybody. -/
inductive Warning where
  | columnsFailed (e : SchemaError)
  | foreignKeysFailed (e : SchemaError)
  | stoppedTwice
  | loopFailed
  deriving DecidableEq, Repr

namespace Warning

def message : Warning → String
  | columnsFailed e => "schema cache column refresh failed: " ++ e.message
  | foreignKeysFailed e =>
    "schema cache foreign key refresh failed: " ++ e.message
  | stoppedTwice => "schema refresh worker stopped twice"
  | loopFailed => "schema refresh worker task failed: "

end Warning

/-- What can be seen of a step from outside. -/
inductive Event where
  /-- A bind returns. -/
  | bound (caller : Nat) (result : Outcome Unit)
  /-- A bind is broken off. -/
  | broken (caller : Nat)
  /-- A request returns. -/
  | sent (caller : Nat)
  /-- The answer to a caller that asked for readiness. -/
  | ready (caller : Nat) (isReady : Bool)
  /-- A call for the worker to stop returns. -/
  | stopped (caller : Nat)
  | warning (w : Warning)

namespace Inquiry

/-- Give an inquiry the answer to the question it is asking. -/
def resume? {α : Type} (inquiry : Inquiry α) (call : Call)
    (outcome : Outcome call.Answer) : Option (Inquiry α) :=
  match inquiry with
  | .done _ => none
  | .ask asked next =>
    if h : call = asked then some (next (h ▸ outcome)) else none

end Inquiry

namespace Worker

variable {ρ : Type}

/-- A worker after a step, and what can be seen of the step. -/
abbrev Stepped (ρ : Type) := Worker ρ × List Event

def goOn (w : Worker ρ) (id : Nat) (phase : Caller ρ) : Worker ρ :=
  { w with callers := w.callers.insert id phase }

def leave (w : Worker ρ) (id : Nat) : Worker ρ :=
  { w with callers := w.callers.erase id }

/-- A cache for a topology is installed, together with the repository it came
from. -/
def install (w : Worker ρ) (repository : ρ) (topology : Topology) : Worker ρ :=
  { w with
    bound := some repository
    caches := { generation := w.generation + 1, topology } :: w.caches
    generation := w.generation + 1 }

/-- A request leaves its signal. A loop that is over gets none. -/
def signalled (w : Worker ρ) : Worker ρ :=
  { w with signal := w.signal || !w.loop.isOver }

/-- What a caller returns whose request has been signalled. -/
def returned (id : Nat) : Option Nat → Event
  | some _ => .bound id (.ok ())
  | none => .sent id

/-- A caller comes in. A worker that is stopped takes no repository, and only
the first call for it to stop counts. -/
def arrive (w : Worker ρ) (id : Nat) : CallerStep ρ → Option (Stepped ρ)
  | .bind repository =>
    if w.stopped then some (w, [.bound id (.error .workerStopped)])
    else some (w.goOn id (.binding repository Topology.inquiry), [])
  | .request => some (w.goOn id (.requesting none), [])
  | .readCompleted =>
    if w.completed = 0 then some (w, [.ready id false])
    else some (w.goOn id (.comparing w.completed), [])
  | .stop =>
    if w.dismissed then some (w, [.warning .stoppedTwice, .stopped id])
    else some ({ w with dismissed := true }.goOn id .stopping, [])
  | _ => none

/-- A caller that is in the middle of something goes on with it. -/
def callerStep (w : Worker ρ) (id : Nat) :
    Caller ρ → CallerStep ρ → Option (Stepped ρ)
  | .binding repository inquiry, .answered call outcome =>
    (inquiry.resume? call outcome).map fun inquiry =>
      (w.goOn id (.binding repository inquiry), [])
  | .binding _ (.ask _ _), .brokenOff => some (w.leave id, [.broken id])
  | .binding _ (.done (.error e)), .giveUp =>
    some (w.leave id, [.bound id (.error e)])
  | .binding repository (.done (.ok topology)), .install =>
    some ((w.install repository topology).goOn id
      (.requesting (some (w.generation + 1))), [])
  | .requesting installed, .count =>
    some ({ w with requested := w.requested + 1 }.goOn id
      (.signalling installed), [])
  | .signalling installed, .send =>
    some (w.signalled.leave id, [returned id installed])
  | .comparing completed, .readRequested =>
    some (w.leave id, [.ready id (completed = w.requested)])
  | .stopping, .mark =>
    some ({ w with stopped := true }.goOn id .dismissing, [])
  | .dismissing, .dismiss =>
    some ({ w with shutdown := true }.leave id, [.stopped id])
  | _, _ => none

/-- The loop begins to ask, if there is anything to ask about. -/
def beginRefresh (w : Worker ρ) (requests : Nat) : LoopPhase ρ :=
  match w.bound, w.cache? with
  | some repository, some cache =>
    let schemas := cache.topology.schemas
    .columns requests ⟨repository, schemas, cache.generation⟩
      (ColumnIndex.inquiry schemas)
  | _, _ => .refreshed requests

/-- What has been learnt about columns goes into the published cache, if it is
still the one the loop has asked about. -/
def writeColumns (w : Worker ρ) (work : Assignment ρ) :
    Outcome ColumnIndex → Stepped ρ
  | .ok columns => (w.updateCache work.generation ({ · with columns }), [])
  | .error e => (w, [.warning (.columnsFailed e)])

/-- What has been learnt about foreign keys goes into the published cache, if it
is still the one the loop has asked about. That foreign keys are not offered is
nothing to be told. -/
def writeForeignKeys (w : Worker ρ) (work : Assignment ρ) :
    Outcome ForeignKeyIndex → Stepped ρ
  | .ok foreignKeys =>
    (w.updateCache work.generation ({ · with foreignKeys }), [])
  | .error e =>
    (w, if e.isNotImplemented then [] else [.warning (.foreignKeysFailed e)])

/-- The loop goes on. It ends before it takes another signal once it has been
told to, and it is broken off by a relation that cannot be filed. -/
def loopStep (w : Worker ρ) : LoopPhase ρ → LoopStep → Option (Stepped ρ)
  | .waiting, .exit =>
    if w.shutdown then some ({ w with loop := .exited }, []) else none
  | .waiting, .take =>
    if w.signal && !w.shutdown then
      some ({ w with signal := false, loop := .signalled }, [])
    else none
  | .signalled, .readRequests =>
    some ({ w with loop := .counted w.requested }, [])
  | .counted requests, .begin =>
    some ({ w with loop := w.beginRefresh requests }, [])
  | .columns requests work inquiry, .answered call outcome =>
    (inquiry.resume? call outcome).map fun inquiry =>
      ({ w with loop := .columns requests work inquiry }, [])
  | .columns requests work (.done result), .writeColumns =>
    let (w, events) := w.writeColumns work result
    some ({ w with
      loop := .foreignKeys requests work
        (ForeignKeyIndex.inquiry work.schemas) }, events)
  | .foreignKeys requests work inquiry, .answered call outcome =>
    (inquiry.resume? call outcome).map fun inquiry =>
      ({ w with loop := .foreignKeys requests work inquiry }, [])
  | .foreignKeys _ _ (.done (.ok none)), .writeForeignKeys =>
    some ({ w with loop := .crashed }, [])
  | .foreignKeys requests work (.done (.ok (some foreignKeys))),
      .writeForeignKeys =>
    let (w, events) := w.writeForeignKeys work (.ok foreignKeys)
    some ({ w with loop := .refreshed requests }, events)
  | .foreignKeys requests work (.done (.error e)), .writeForeignKeys =>
    let (w, events) := w.writeForeignKeys work (.error e)
    some ({ w with loop := .refreshed requests }, events)
  | .columns _ _ (.ask _ _), .brokenOff =>
    some ({ w with loop := .crashed }, [])
  | .foreignKeys _ _ (.ask _ _), .brokenOff =>
    some ({ w with loop := .crashed }, [])
  | .refreshed requests, .countRun =>
    some ({ w with runs := w.runs + 1, loop := .completing requests }, [])
  | .completing requests, .complete =>
    some ({ w with completed := requests, loop := .waiting }, [])
  | _, _ => none

/-- A step of a worker, if it can be taken. -/
def step (w : Worker ρ) : Label ρ → Option (Stepped ρ)
  | .caller id move =>
    match w.callers.get? id with
    | some phase => w.callerStep id phase move
    | none => w.arrive id move
  | .loop move => w.loopStep w.loop move
  | .drop =>
    if w.callers.entries.isEmpty then
      some ({ w with dismissed := true, shutdown := true }, [])
    else none

/-- Steps one after the other. All of them have to be possible. -/
def run (w : Worker ρ) : List (Label ρ) → Option (Stepped ρ)
  | [] => some (w, [])
  | label :: rest => do
    let (w, events) ← w.step label
    let (w, later) ← run w rest
    return (w, events ++ later)

/-- A worker that steps can lead to. -/
def Reachable (w : Worker ρ) : Prop :=
  ∃ labels events, initial.run labels = some (w, events)

end Worker

end SchemaScope

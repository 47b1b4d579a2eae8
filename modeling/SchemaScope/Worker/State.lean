import SchemaScope.Refresh
import SchemaScope.SchemaCache

/-!
The state of a refresh worker. A worker keeps the cache of one database. Its
callers bind it to repositories and ask for refreshes; a loop of its own
refreshes columns and foreign keys. A request counts up `requested` and then
leaves a signal; one signal stands for any number of requests. The loop takes
the signal, remembers how many requests there have been, refreshes, and then
declares that many complete.
-/

namespace SchemaScope

/-- What a refresh has been started for: a repository and the cache it was found
with. -/
structure Assignment (ρ : Type) where
  repository : ρ
  schemas : List String
  generation : Nat

/-- Where the loop of a worker is. -/
inductive LoopPhase (ρ : Type) where
  /-- Ready to take a signal. -/
  | waiting
  /-- A signal has been taken. -/
  | signalled
  /-- The number of requests has been read. -/
  | counted (requests : Nat)
  /-- Columns are being asked for. -/
  | columns (requests : Nat) (work : Assignment ρ)
      (inquiry : Inquiry ColumnIndex)
  /-- Foreign keys are being asked for. -/
  | foreignKeys (requests : Nat) (work : Assignment ρ)
      (inquiry : Inquiry (Option ForeignKeyIndex))
  /-- The refresh is over and has not been counted. -/
  | refreshed (requests : Nat)
  /-- The refresh has been counted and is not declared complete. -/
  | completing (requests : Nat)
  /-- The loop has ended. -/
  | exited
  /-- The loop has been broken off inside a question. -/
  | crashed

/-- The loop takes no signals any more. -/
def LoopPhase.isOver {ρ : Type} : LoopPhase ρ → Bool
  | exited | crashed => true
  | _ => false

/-- Where a caller of a worker is. -/
inductive Caller (ρ : Type) where
  /-- Asking a repository for its topology, in order to bind it. -/
  | binding (repository : ρ) (inquiry : Inquiry Topology)
  /-- About to count a request. The generation is that of the cache a bind has
  just installed. -/
  | requesting (installed : Option Nat)
  /-- About to signal a request that has been counted. -/
  | signalling (installed : Option Nat)
  /-- Asking for readiness, with the number of completed requests already
  read. -/
  | comparing (completed : Nat)
  /-- About to mark the worker as stopped. -/
  | stopping
  /-- About to tell the loop to end. -/
  | dismissing

/-- A worker, and the callers that are in the middle of something. -/
structure Worker (ρ : Type) where
  /-- The repository of the newest cache. -/
  bound : Option ρ := none
  /-- All caches that have been installed, the newest first. -/
  caches : List SchemaCache := []
  /-- The number of the newest cache. -/
  generation : Nat := 0
  /-- Requests counted. -/
  requested : Nat := 0
  /-- The number of requests that the last finished refresh has seen. -/
  completed : Nat := 0
  /-- Refreshes finished. -/
  runs : Nat := 0
  /-- A signal waits for the loop. -/
  signal : Bool := false
  /-- Somebody has undertaken to tell the loop to end. -/
  dismissed : Bool := false
  /-- The worker takes no repository any more. -/
  stopped : Bool := false
  /-- The loop has been told to end. -/
  shutdown : Bool := false
  loop : LoopPhase ρ := .waiting
  callers : OrderedMap Nat (Caller ρ) := OrderedMap.empty

/-- What can be seen of a worker from outside. -/
inductive WorkerState where
  | idle
  | ready
  | refreshing
  | stopped
  deriving DecidableEq, Repr

namespace WorkerState

def name : WorkerState → String
  | idle => "Idle"
  | ready => "Ready"
  | refreshing => "RefreshingSecondary"
  | stopped => "Stopped"

end WorkerState

namespace Worker

variable {ρ : Type}

def initial : Worker ρ := {}

/-- The cache that is published. -/
def cache? (w : Worker ρ) : Option SchemaCache := w.caches.head?

/-- A cache that has been installed, under its number. -/
def cacheOf? (w : Worker ρ) (generation : Nat) : Option SchemaCache :=
  w.caches.find? (·.generation = generation)

/-- The latest request is covered by a finished refresh, as one look at both
numbers shows. -/
def isReady (w : Worker ρ) : Bool :=
  w.completed ≠ 0 && w.completed = w.requested

def state (w : Worker ρ) : WorkerState :=
  if w.stopped then .stopped
  else if w.caches.isEmpty then .idle
  else if w.isReady then .ready
  else .refreshing

/-- Replace the published cache by a version of itself, provided that it has the
given number. -/
def updateCache (w : Worker ρ) (generation : Nat)
    (change : SchemaCache → SchemaCache) : Worker ρ :=
  match w.caches with
  | cache :: older =>
    if cache.generation = generation then
      { w with caches := change cache :: older }
    else w
  | [] => w

end Worker

end SchemaScope

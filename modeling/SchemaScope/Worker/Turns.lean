import SchemaScope.Worker.Step

/-!
Running a worker in turns. The parties take turns in the order in which they
became ready, and a turn lasts until its party ends or waits for something. A
turn is nothing but steps of the worker; questions are answered by a host, which
may also let a party wait or break it off.
-/

namespace SchemaScope

inductive Party where
  | loop
  | caller (id : Nat)
  deriving DecidableEq, Repr

namespace Party

def answered {ρ : Type} (party : Party) (call : Call)
    (outcome : Outcome call.Answer) : Label ρ :=
  match party with
  | loop => .loop (.answered call outcome)
  | caller id => .caller id (.answered call outcome)

def brokenOff {ρ : Type} : Party → Label ρ
  | loop => .loop .brokenOff
  | caller id => .caller id .brokenOff

end Party

/-- What a party that asks a question is given. -/
inductive Receipt (call : Call) where
  /-- It has to wait. -/
  | held
  /-- It is broken off. -/
  | brokenOff
  | answered (outcome : Outcome call.Answer)

/-- What answers the questions of the parties; its own state may change by
that. -/
structure Host (σ ρ : Type) where
  receive : σ → Party → ρ → (call : Call) → σ × Receipt call

/-- A host without a state that answers every question at once. -/
def Host.ofRepositories : Host Unit Repository where
  receive _ _ repository call := ((), .answered (repository.answer call))

/-- A worker and its host between two turns. -/
structure Turns (σ ρ : Type) where
  world : σ
  worker : Worker ρ := Worker.initial
  /-- The parties that can go on, in the order of their turns. -/
  ready : List Party := [.loop]
  /-- Callers that are going to bind a repository and have not had a turn. -/
  starting : OrderedMap Nat ρ := OrderedMap.empty
  /-- Somebody has already waited for the loop to end. -/
  awaited : Bool := false
  /-- Nobody but the callers that are still at it keeps the worker. -/
  abandoned : Bool := false
  /-- What has been seen of the worker, the latest last. -/
  events : List Event := []

namespace Turns

variable {σ ρ α : Type}

/-- A loop that waits becomes ready when there is a signal for it. -/
def wakeLoop (t : Turns σ ρ) : Turns σ ρ :=
  match t.worker.loop with
  | .waiting =>
    if (t.worker.signal || t.worker.shutdown) && !t.ready.contains .loop then
      { t with ready := t.ready ++ [.loop] }
    else t
  | _ => t

/-- Take a step, if it is possible. -/
def perform (t : Turns σ ρ) (label : Label ρ) : Turns σ ρ :=
  match t.worker.step label with
  | some (worker, events) =>
    wakeLoop { t with worker, events := t.events ++ events }
  | none => t

/-- Of several steps take those that are possible. -/
def performAll (t : Turns σ ρ) (labels : List (Label ρ)) : Turns σ ρ :=
  labels.foldl perform t

/-- A party asks its questions until it is through, or has to wait. -/
def consult (host : Host σ ρ) (party : Party) (repository : ρ) :
    Inquiry α → Turns σ ρ → Turns σ ρ
  | .done _, t => t
  | .ask call next, t =>
    match host.receive t.world party repository call with
    | (world, .held) => { t with world }
    | (world, .brokenOff) => { t with world }.perform party.brokenOff
    | (world, .answered outcome) =>
      consult host party repository (next outcome)
        ({ t with world }.perform (party.answered call outcome))

def continueBind (host : Host σ ρ) (t : Turns σ ρ) (id : Nat) : Turns σ ρ :=
  match t.worker.callers.get? id with
  | some (.binding repository inquiry) =>
    (t.consult host (.caller id) repository inquiry).performAll
      [.caller id .install, .caller id .count, .caller id .send,
        .caller id .giveUp]
  | _ => t

def bind (host : Host σ ρ) (t : Turns σ ρ) (id : Nat) (repository : ρ) :
    Turns σ ρ :=
  (t.perform (.caller id (.bind repository))).continueBind host id

/-- Give the worker up, if it is abandoned and the last caller has left. -/
def letGo (t : Turns σ ρ) : Turns σ ρ :=
  if t.abandoned && t.starting.entries.isEmpty then t.perform .drop else t

def callerTurn (host : Host σ ρ) (t : Turns σ ρ) (id : Nat) : Turns σ ρ :=
  match t.starting.get? id with
  | some repository =>
    ({ t with starting := t.starting.erase id }.bind host id repository).letGo
  | none => (t.continueBind host id).letGo

def consultLoop (host : Host σ ρ) (t : Turns σ ρ) : Turns σ ρ :=
  match t.worker.loop with
  | .columns _ work inquiry => t.consult host .loop work.repository inquiry
  | .foreignKeys _ work inquiry => t.consult host .loop work.repository inquiry
  | _ => t

/-- The loop finishes the refresh it has begun, unless it has to wait. -/
def finishRefresh (host : Host σ ρ) (t : Turns σ ρ) : Turns σ ρ :=
  let t := (t.consultLoop host).perform (.loop .writeColumns)
  let t := (t.consultLoop host).perform (.loop .writeForeignKeys)
  t.performAll [.loop .countRun, .loop .complete]

/-- A waiting loop ends or begins a refresh. -/
def nextRefresh (t : Turns σ ρ) : Turns σ ρ :=
  t.performAll [.loop .exit, .loop .take, .loop .readRequests, .loop .begin]

/-- The turn of the loop. It leaves no signal behind, because nobody leaves one
in the meantime. -/
def loopTurn (host : Host σ ρ) (t : Turns σ ρ) : Turns σ ρ :=
  (((t.finishRefresh host).nextRefresh).finishRefresh host).nextRefresh

def turn (host : Host σ ρ) (t : Turns σ ρ) : Party → Turns σ ρ
  | .loop => t.loopTurn host
  | .caller id => t.callerTurn host id

/-- All parties that are ready take their turns. -/
def round (host : Host σ ρ) (t : Turns σ ρ) : Turns σ ρ :=
  t.ready.foldl (turn host) { t with ready := [] }

/-- Take turns until nobody can go on. A round makes nobody ready but the
loop. -/
def settle (host : Host σ ρ) (t : Turns σ ρ) : Turns σ ρ :=
  (t.round host).round host

/-- A caller is going to bind a repository when its turn comes. -/
def startBind (t : Turns σ ρ) (id : Nat) (repository : ρ) : Turns σ ρ :=
  { t with
    starting := t.starting.insert id repository
    ready := t.ready ++ [.caller id] }

def request (t : Turns σ ρ) (id : Nat) : Turns σ ρ :=
  t.performAll [.caller id .request, .caller id .count, .caller id .send]

def stop (t : Turns σ ρ) (id : Nat) : Turns σ ρ :=
  t.performAll [.caller id .stop, .caller id .mark, .caller id .dismiss]

/-- The owner of the worker gives it up. Callers that are still at it keep it
until they leave. -/
def drop (t : Turns σ ρ) : Turns σ ρ := { t with abandoned := true }.letGo

/-- The loop has come to an end, by itself or because it was broken off. -/
def hasEnded (t : Turns σ ρ) : Bool :=
  match t.worker.loop with
  | .exited | .crashed => true
  | _ => false

/-- Wait for the loop to end, which can be done once. Nobody takes a turn if it
has ended already. The answer says whether it has ended; a loop that was broken
off is reported. -/
def join (host : Host σ ρ) (t : Turns σ ρ) : Turns σ ρ × Bool :=
  if t.awaited then (t, true)
  else
    let t := { t with awaited := true }
    let t := if t.hasEnded then t else t.settle host
    match t.worker.loop with
    | .crashed =>
      ({ t with events := t.events ++ [.warning .loopFailed] }, true)
    | _ => (t, t.hasEnded)

/-- What has been returned to a caller that was binding: nothing yet, nothing at
all, or a result. -/
def bindResult? (t : Turns σ ρ) (id : Nat) : Option (Option (Outcome Unit)) :=
  t.events.findSome? fun
    | .bound caller result => if caller = id then some (some result) else none
    | .broken caller => if caller = id then some none else none
    | _ => none

def warnings (t : Turns σ ρ) : List Warning :=
  t.events.filterMap fun
    | .warning w => some w
    | _ => none

end Turns

end SchemaScope

import SchemaScope.Simulation.Script
import SchemaScope.Worker.Turns

/-!
A stage with several scripted repositories. A gate stands in front of each kind
of question to each repository. It holds permits; who asks a gated question
takes one, and waits in line if there is none. Questions are logged when they
arrive at the gate, and replies are read behind it. No function of the program
reaches this module: only a test driver uses it.
-/

namespace SchemaScope.Simulation

/-- A gate: the permits left, the parties in line, and those who have been given
a permit and have not gone on yet. -/
structure Gate where
  permits : Nat := 0
  waiting : List Party := []
  admitted : List Party := []

/-- The repositories by name, the gates by repository and question, and the
questions that were asked, the latest first. -/
structure Stage where
  scripts : OrderedMap String Script := OrderedMap.empty
  gates : OrderedMap (String × String) Gate := OrderedMap.empty
  log : List String := []

namespace Stage

def gate (stage : Stage) (repository question : String) : Gate :=
  (stage.gates.get? (repository, question)).getD {}

def setGate (stage : Stage) (repository question : String) (gate : Gate) :
    Stage :=
  { stage with gates := stage.gates.insert (repository, question) gate }

/-- What a party finds behind the gate. -/
def reply (script : Script) (call : Call) : Receipt call :=
  match script.reply call with
  | .silent => .answered call.unanswered
  | .brokenOff => .brokenOff
  | .answered outcome => .answered outcome

/-- A party asks a repository on the stage. -/
def receive (stage : Stage) (party : Party) (name : String) (script : Script)
    (call : Call) : Stage × Receipt call :=
  let gate := stage.gate name call.name
  if gate.admitted.contains party then
    (stage.setGate name call.name
      { gate with admitted := gate.admitted.erase party }, reply script call)
  else if gate.waiting.contains party then (stage, .held)
  else
    let stage :=
      { stage with log := (name ++ "." ++ call.display) :: stage.log }
    if !script.gated call then (stage, reply script call)
    else if gate.permits = 0 then
      (stage.setGate name call.name
        { gate with waiting := gate.waiting ++ [party] }, .held)
    else
      (stage.setGate name call.name { gate with permits := gate.permits - 1 },
        reply script call)

/-- The host of the parties on a stage. A repository that is not named answers
no more than it must, and nobody takes notice of it. -/
def host : Host Stage (Option String) where
  receive stage party repository call :=
    match repository with
    | none => (stage, .answered call.unanswered)
    | some name =>
      match stage.scripts.get? name with
      | none => (stage, .answered call.unanswered)
      | some script => stage.receive party name script call

/-- Add permits to a gate. The parties in line get theirs first. -/
def release (stage : Stage) (repository question : String) (count : Nat) :
    Stage × List Party :=
  let gate := stage.gate repository question
  let admitted := gate.waiting.take count
  (stage.setGate repository question
    { permits := gate.permits + (count - admitted.length)
      waiting := gate.waiting.drop count
      admitted := gate.admitted ++ admitted }, admitted)

end Stage

/-- Add permits to a gate; the parties that get one become ready. -/
def release (t : Turns Stage (Option String)) (repository question : String)
    (count : Nat) : Turns Stage (Option String) :=
  let (world, admitted) := t.world.release repository question count
  { t with world, ready := t.ready ++ admitted }

end SchemaScope.Simulation

import SchemaScope.Session.Protocol

/-!
The language server: it takes messages one after the other, answers those that
have a number, and ends with the message that says so or when there are no more.
A session has to be started before anything else is done in it, and nothing is
done after it has been shut down.
-/

namespace SchemaScope

/-- How far a session has come. -/
inductive Phase where
  | waiting
  | running
  | over
  deriving DecidableEq, Repr

/-- Why a request is refused. -/
inductive Refusal where
  | unknownMethod
  | parameters (reason : String)
  | notStarted
  /-- The session has been started already, or it is over. -/
  | outOfPhase
  deriving DecidableEq, Repr

namespace Refusal

def code : Refusal → Int
  | unknownMethod => -32601
  | parameters _ => -32602
  | notStarted => -32002
  | outOfPhase => -32600

def message : Refusal → String
  | unknownMethod => "Method not found"
  | parameters reason => reason
  | notStarted => "Server not initialized"
  | outOfPhase => "Invalid request"

end Refusal

/-- A server: its session, and how far that has come. -/
structure Server where
  phase : Phase := .waiting
  session : Session := {}

namespace Server

/-- The version of the message format. -/
def format : String × Json := ("jsonrpc", .string "2.0")

/-- A message that carries a notification. -/
def notice (n : Notification) : Json :=
  .object [format, ("method", .string n.method), ("params", n.params)]

def failure (code : Int) (text : String) (id : Json) : Json :=
  .object [format,
    ("error", .object [("code", .integer code), ("message", .string text)]),
    ("id", id)]

def reply (id : Json) (r : Reply) : Json :=
  match r.result with
  | .ok result => .object [format, ("result", result), ("id", id)]
  | .error e => failure e.code e.message id

def refusal (r : Refusal) (id : Json) : Json :=
  failure r.code r.message id

/-- Why a method is not called in a phase. -/
def objection? (phase : Phase) (method : Method) : Option Refusal :=
  match phase, method with
  | .waiting, .start => none
  | .waiting, _ => some .notStarted
  | .running, .start => some .outOfPhase
  | .running, _ => none
  | .over, _ => some .outOfPhase

/-- The phase after a method has been called. A session that could not be
started is still waiting. -/
def phaseAfter (phase : Phase) : Method → Reply → Phase
  | .start, .started => .running
  | .shutdown, _ => .over
  | _, _ => phase

/-- Call a method. The answers go out after what the editor is told besides. A
message has a number just in case its method asks for an answer. -/
def call (world : World) (s : Server) (method : Method) (id : Option Json)
    (parameters : Option Json) : Server × List Json :=
  match objection? s.phase method with
  | some r => (s, (id.map (refusal r)).toList)
  | none =>
    if method.isQuestion ≠ id.isSome then (s, [])
    else
      match method.message parameters with
      | .error reason =>
        ({ s with phase := phaseAfter s.phase method .none },
          (id.map (refusal (.parameters reason))).toList)
      | .ok m =>
        let (session, response) := s.session.handle world m
        ({ phase := phaseAfter s.phase method response.reply, session },
          response.notifications.map notice
            ++ (id.map (reply · response.reply)).toList)

def methodName (message : Json) : String :=
  match message.field? "method" with
  | some (.string name) => name
  | _ => ""

def answer (world : World) (s : Server) (message : Json) : Server × List Json :=
  let id := message.field? "id"
  match Method.ofName? (methodName message) with
  | none => (s, (id.map (refusal .unknownMethod)).toList)
  | some method => s.call world method id (message.field? "params")

def isExit (message : Json) : Bool :=
  methodName message == "exit"

/-- Take in messages until the end. -/
def serve (world : World) : Server → List Json → List Json
  | _, [] => []
  | s, message :: rest =>
    if isExit message then []
    else
      let (s, out) := answer world s message
      out ++ serve world s rest

end Server

end SchemaScope

import SchemaScope.Json.Printer
import SchemaScope.Session.Parameters

/-!
The language server protocol: the JSON forms of what an editor says and of what
it is told.
-/

namespace SchemaScope

def programName : String := "schemalens"

def programVersion : String := "0.1.0"

/-- The methods of the protocol that the server knows. -/
inductive Method where
  | start
  | started
  | configure
  | opened
  | changed
  | closed
  | complete
  | shutdown
  deriving DecidableEq, Repr

namespace Method

def ofName? : String → Option Method
  | "initialize" => some start
  | "initialized" => some started
  | "workspace/didChangeConfiguration" => some configure
  | "textDocument/didOpen" => some opened
  | "textDocument/didChange" => some changed
  | "textDocument/didClose" => some closed
  | "textDocument/completion" => some complete
  | "shutdown" => some shutdown
  | _ => none

/-- The method asks for an answer. -/
def isQuestion : Method → Bool
  | start | complete | shutdown => true
  | started | configure | opened | changed | closed => false

/-- How the parameters of a method are read. One method has none. -/
def parameters? : Method → Option (Json → Json.Decoded ClientMessage)
  | start => some Parameters.toStart
  | started => some Parameters.toStarted
  | configure => some Parameters.toConfigured
  | opened => some Parameters.toOpened
  | changed => some Parameters.toChanged
  | closed => some Parameters.toClosed
  | complete => some Parameters.toQuestion
  | shutdown => none

def message (method : Method) (parameters : Option Json) :
    Json.Decoded ClientMessage :=
  match method.parameters?, parameters with
  | some read, some parameters => read parameters
  | some _, none => .error "Missing params field"
  | none, some parameters =>
    .error ("Unexpected params: " ++ parameters.sorted.render)
  | none, none => .ok .shutdown

end Method

def CompletionKind.code : CompletionKind → Nat
  | .column => 5
  | .table => 7
  | .schema => 9

def Completion.toJson (c : Completion) : Json :=
  .object [("label", .string c.label), ("kind", .natural c.kind.code),
    ("detail", .string c.detail)]

namespace Notification

def method : Notification → String
  | log _ => "window/logMessage"
  | error _ => "window/showMessage"

def params : Notification → Json
  | log text => .object [("type", .natural 3), ("message", .string text)]
  | error text => .object [("type", .natural 1), ("message", .string text)]

end Notification

namespace Reply

/-- What the server tells an editor about itself. -/
def serverDescription : Json :=
  .object [
    ("capabilities", .object [
      ("textDocumentSync", .natural 1),
      ("completionProvider", .object [
        ("triggerCharacters", .strings ["."]),
        ("resolveProvider", .bool false)])]),
    ("serverInfo", .object [
      ("name", .string programName), ("version", .string programVersion)])]

/-- The result that a reply carries, or the error. -/
def result : Reply → Except StartError Json
  | none | done => .ok .null
  | started => .ok serverDescription
  | refused e => .error e
  | completions items =>
    .ok (.ofOption (fun items => .array (items.map Completion.toJson)) items)

end Reply

end SchemaScope

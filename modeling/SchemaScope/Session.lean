import SchemaScope.Completion
import SchemaScope.Exchange.Settings
import SchemaScope.Uri
import SchemaScope.Worker.Turns
import SchemaScope.World

/-!
A session with an editor. The session keeps the texts of the open documents and
a worker, which is bound to a database when the session starts and bound again
when the editor is configured anew. A database that cannot be read leaves the
session as it is. Between two messages the worker comes to rest.
-/

namespace SchemaScope

/-- What an editor says. -/
inductive ClientMessage where
  /-- The session starts. The options may name a connection. -/
  | start (options : Option Json)
  /-- The editor knows that the session has started. -/
  | started
  /-- The settings of the editor have changed. -/
  | configure (settings : Json)
  | opened (uri : Uri) (text : String)
  /-- A document has changed. Each text is the whole document. -/
  | changed (uri : Uri) (texts : List String)
  | closed (uri : Uri)
  /-- The editor asks for completions. -/
  | complete (uri : Uri) (position : Text.Position)
  /-- Columns and foreign keys are to be read again. -/
  | refresh
  | shutdown

/-- What is told to an editor without being asked for. -/
inductive Notification where
  | log (text : String)
  | error (text : String)
  deriving DecidableEq, Repr

/-- Why a session does not start. -/
inductive StartError where
  | options (reason : String)
  | schema (e : SchemaError)
  deriving DecidableEq, Repr

namespace StartError

def message : StartError → String
  | options reason => "invalid initializationOptions: " ++ reason
  | schema e => "failed to load database schema: " ++ e.message

def code : StartError → Int
  | options _ => -32602
  | schema _ => -32603

end StartError

/-- What is reported of a session without being told to the editor. -/
inductive Notice where
  | settingsIgnored (e : SettingsError)
  | connectionIgnored (name : String) (e : SettingsError)
  | rebindFailed (e : SchemaError)
  | worker (w : Warning)
  deriving DecidableEq, Repr

namespace Notice

def message : Notice → String
  | settingsIgnored e => "ignoring config file: " ++ e.message
  | connectionIgnored name e =>
    "ignoring connection " ++ name ++ ": " ++ e.message
  | rebindFailed e => "rebind failed, keeping previous schema: " ++ e.message
  | worker w => w.message

end Notice

inductive Reply where
  | none
  | started
  | refused (e : StartError)
  | completions (items : Option (List Completion))
  | done

/-- All that follows from a message. -/
structure Response where
  reply : Reply := .none
  notifications : List Notification := []
  notices : List Notice := []

structure Session where
  turns : Turns Unit Repository := { world := () }
  documents : OrderedMap Uri String := OrderedMap.empty

namespace Session

/-- The connection to use where the editor names none: that of the environment,
or else the default one of the settings. -/
def fallback (world : World) : Option Connection × List Notice :=
  match Connection.ofEnvironment world.environment with
  | .ok c => (some c, [])
  | .error _ =>
    match world.settings with
    | .error e => (none, [.settingsIgnored e])
    | .ok settings =>
      match settings.defaultConnection? with
      | none => (none, [])
      | some (name, entry) =>
        match entry.connection world.environment with
        | .ok c => (some c, [])
        | .error e => (none, [.connectionIgnored name e])

/-- The connection in the options of an editor. Options that are missing name
none. -/
def connectionIn : Option Json → Json.Decoded (Option Connection)
  | none | some .null => .ok none
  | some options => Connection.optionsOfJson options

/-- Bind the worker to the database of a connection. Repositories answer at
once, so a bind has a result. -/
def connect (world : World) (s : Session) (c : Connection) :
    Session × Outcome Unit :=
  match c.connect world.database with
  | .error e => (s, .error e)
  | .ok repository =>
    let turns := s.turns.bind .ofRepositories 0 repository
    let result := (turns.bindResult? 0).join
    ({ s with turns }, result.getD (.error .workerStopped))

/-- Start the session, with the connection that the options name or else with
another one. -/
def start (world : World) (s : Session) (options : Option Json) :
    Session × Response :=
  match connectionIn options with
  | .error reason => (s, { reply := .refused (.options reason) })
  | .ok named =>
    let (connection, notices) := match named with
      | some c => (some c, [])
      | none => fallback world
    match connection with
    | none => (s, { reply := .started, notices })
    | some c =>
      match s.connect world c with
      | (s, .ok ()) => (s, { reply := .started, notices })
      | (s, .error e) => (s, { reply := .refused (.schema e), notices })

/-- Bind the worker anew if the settings of the editor name a connection. -/
def configure (world : World) (s : Session) (settings : Json) :
    Session × Response :=
  match connectionIn (some settings) with
  | .error reason =>
    (s, { notifications := [.error (StartError.options reason).message] })
  | .ok none => (s, {})
  | .ok (some c) =>
    match s.connect world c with
    | (s, .ok ()) => (s, {})
    | (s, .error e) =>
      (s, { notifications := [.error (StartError.schema e).message]
            notices := [.rebindFailed e] })

/-- The completions at a position, `none` where there are none. -/
def completionsAt (s : Session) (uri : Uri) (position : Text.Position) :
    Option (List Completion) := do
  let cache ← s.turns.worker.cache?
  let text ← s.documents.get? uri
  let items := Completion.completeAt cache text position
  if items.isEmpty then none else some items

/-- Take in a message. Of several texts of a changed document the first one
counts. -/
def receive (world : World) (s : Session) : ClientMessage → Session × Response
  | .start options => s.start world options
  | .started =>
    (s, { notifications := [.log "schemalens language server initialized"] })
  | .configure settings => s.configure world settings
  | .opened uri text =>
    ({ s with documents := s.documents.insert uri text }, {})
  | .changed uri (text :: _) =>
    ({ s with documents := s.documents.insert uri text }, {})
  | .changed _ [] => (s, {})
  | .closed uri => ({ s with documents := s.documents.erase uri }, {})
  | .complete uri position =>
    (s, { reply := .completions (s.completionsAt uri position) })
  | .refresh => ({ s with turns := s.turns.request 0 }, {})
  | .shutdown => ({ s with turns := s.turns.stop 0 }, { reply := .done })

/-- Let the worker come to rest, and collect what it has reported. -/
def rest (s : Session) : Session × List Notice :=
  let turns := s.turns.settle .ofRepositories
  ({ s with turns := { turns with events := [] } }, turns.warnings.map .worker)

/-- Answer a message. -/
def handle (world : World) (s : Session) (message : ClientMessage) :
    Session × Response :=
  let (s, response) := s.receive world message
  let (s, reported) := s.rest
  (s, { response with notices := response.notices ++ reported })

end Session

end SchemaScope

import SchemaScope.Json.Record
import SchemaScope.Session

/-!
The parameters of what an editor says. All of them are read, also those that do
not matter here, for a message whose parameters are not in order is not taken
in.
-/

namespace SchemaScope.Parameters

open Json (Decoded FieldSource Taken mismatch toText toOption toRecord
  toGrouped)

def toUri : Json → Decoded Uri
  | .string text =>
    (Uri.ofText text).mapError fun e => e.message ++ ": " ++ Text.quoted text
  | j => .error (mismatch j "a string representing an URL")

/-- Nothing but that a value is there. -/
def toAny (_ : Json) : Decoded Unit :=
  .ok ()

/-- A record of which nothing is looked at. -/
def toSealed (record : String) : Json → Decoded Unit
  | .object _ | .array _ => .ok ()
  | j => .error (mismatch j ("struct " ++ record))

def toPosition
    (record : String → Nat → (FieldSource → Taken Text.Position) →
      Json → Decoded Text.Position) :
    Json → Decoded Text.Position :=
  record "Position" 2 fun source =>
    Text.Position.mk <$> source.take 0 "line" Json.toWord32
      <*> source.take 1 "character" Json.toWord32

def toRange : Json → Decoded (Text.Position × Text.Position) :=
  toRecord "Range" 2 fun source =>
    Prod.mk <$> source.take 0 "start" (toPosition toRecord)
      <*> source.take 1 "end" (toPosition toRecord)

/-- The URI of a document. -/
def toDocument
    (record : String → Nat → (FieldSource → Taken Uri) → Json → Decoded Uri) :
    Json → Decoded Uri :=
  record "TextDocumentIdentifier" 1 fun source => source.take 0 "uri" toUri

/-- The URI of a version of a document. -/
def toVersion : Json → Decoded Uri :=
  toRecord "VersionedTextDocumentIdentifier" 2 fun source =>
    (fun uri _ => uri) <$> source.take 0 "uri" toUri
      <*> source.take 1 "version" Json.toInteger32

def toDocumentText : Json → Decoded (Uri × String) :=
  toRecord "TextDocumentItem" 4 fun source =>
    (fun uri _ _ text => (uri, text)) <$> source.take 0 "uri" toUri
      <*> source.take 1 "languageId" toText
      <*> source.take 2 "version" Json.toInteger32
      <*> source.take 3 "text" toText

def toChange : Json → Decoded String :=
  toRecord "TextDocumentContentChangeEvent" 3 fun source =>
    (fun _ _ text => text) <$> source.takeOption 0 "range" toRange
      <*> source.takeOption 1 "rangeLength" Json.toWord32
      <*> source.take 2 "text" toText

def toOpened : Json → Decoded ClientMessage :=
  toRecord "DidOpenTextDocumentParams" 1 fun source =>
    (fun (uri, text) => .opened uri text)
      <$> source.take 0 "textDocument" toDocumentText

def toChanged : Json → Decoded ClientMessage :=
  toRecord "DidChangeTextDocumentParams" 2 fun source =>
    .changed <$> source.take 0 "textDocument" toVersion
      <*> source.take 1 "contentChanges" (Json.toList toChange)

def toClosed : Json → Decoded ClientMessage :=
  toRecord "DidCloseTextDocumentParams" 1 fun source =>
    .closed <$> source.take 0 "textDocument" (toDocument toRecord)

def toConfigured : Json → Decoded ClientMessage :=
  toRecord "DidChangeConfigurationParams" 1 fun source =>
    .configure <$> source.take 0 "settings" .ok

/-- What the editor calls a piece of work. -/
def toToken : Json → Decoded Unit
  | .string _ => .ok ()
  | j => ((Json.toInteger32 j).map fun _ => ()).mapError fun _ =>
    "data did not match any variant of untagged enum NumberOrString"

/-- Why completions are asked for. -/
def toOccasion : Json → Decoded Unit :=
  toRecord "CompletionContext" 2 fun source =>
    (fun _ _ => ()) <$> source.take 0 "triggerKind" Json.toInteger32
      <*> source.takeOption 1 "triggerCharacter" toText

/-- The parameters of a question for completions. Several groups of fields are
put together in one object and are read one after the other. -/
def toQuestion : Json → Decoded ClientMessage
  | .object fields => do
    let optional (name : String) (decode : Json → Decoded Unit) :
        Decoded (Option Unit) :=
      Json.ofFields fields fun source => source.takeOption 0 name decode
    let _ ← optional "context" toOccasion
    let question ← Json.ofFields fields fun source =>
      ClientMessage.complete
        <$> source.take 0 "textDocument" (toDocument toGrouped)
        <*> source.take 1 "position" (toPosition toGrouped)
    let _ ← optional "workDoneToken" toToken
    let _ ← optional "partialResultToken" toToken
    return question
  | j => .error (mismatch j "struct CompletionParams")

/-- How much the editor wants to be told about the work of the server. -/
def toTrace : Json → Decoded Unit
  | .string name =>
    if ["off", "messages", "verbose"].contains name then .ok ()
    else .error ("unknown variant \x60" ++ name
      ++ "\x60, expected one of \x60off\x60, \x60messages\x60, \x60verbose\x60")
  | j => .error (mismatch j "string or map")

/-- A directory that the editor has open. -/
def toFolder : Json → Decoded Unit :=
  toRecord "WorkspaceFolder" 2 fun source =>
    (fun _ _ => ()) <$> source.take 0 "uri" toUri
      <*> source.take 1 "name" toText

/-- The name and version of the editor. -/
def toEditor : Json → Decoded Unit :=
  toRecord "ClientInfo" 2 fun source =>
    (fun _ _ => ()) <$> source.take 0 "name" toText
      <*> source.takeOption 1 "version" toText

/-- What the editor is able to do. -/
def toAbilities : Json → Decoded Unit :=
  toRecord "ClientCapabilities" 6 fun source =>
    (fun _ _ _ _ _ _ => ())
      <$> source.takeOption 0 "workspace"
        (toSealed "WorkspaceClientCapabilities")
      <*> source.takeOption 1 "textDocument"
        (toSealed "TextDocumentClientCapabilities")
      <*> source.takeOption 2 "notebookDocument"
        (toSealed "NotebookDocumentClientCapabilities")
      <*> source.takeOption 3 "window" (toSealed "WindowClientCapabilities")
      <*> source.takeOption 4 "general" (toSealed "GeneralClientCapabilities")
      <*> source.takeOption 5 "experimental" toAny

def toStart : Json → Decoded ClientMessage :=
  toRecord "InitializeParams" 9 fun source =>
    (fun _ _ _ options _ _ _ _ _ => .start options)
      <$> source.takeOption 0 "processId" Json.toWord32
      <*> source.takeOption 1 "rootPath" toText
      <*> source.takeOr none 2 "rootUri" (toOption toUri)
      <*> source.takeOption 3 "initializationOptions" .ok
      <*> source.take 4 "capabilities" toAbilities
      <*> source.takeOr none 5 "trace" (toOption toTrace)
      <*> source.takeOption 6 "workspaceFolders" (Json.toList toFolder)
      <*> source.takeOption 7 "clientInfo" toEditor
      <*> source.takeOption 8 "locale" toText

/-- The parameters of the message that the session has started, of which there
are none. -/
def toStarted : Json → Decoded ClientMessage :=
  toRecord "InitializedParams" 0 fun _ => .value .started

end SchemaScope.Parameters

import SchemaScope.Json.Printer
import SchemaScope.Program

/-!
The program as it is called. Input and output are here and nowhere else: the
surroundings are looked at first, and the answers are written as the program
gives them. There is no database engine in this program; it can open new
databases in memory and nothing else.
-/

namespace SchemaScope.Console

def lookAt (path : String) : IO FileState := do
  try
    return .file (← IO.FS.readBinFile path).toList
  catch
    | .noFileOrDirectory .. => return .absent
    | _ => return .directory

/-- The variables of the given names that are set. -/
def lookUp (names : List String) : IO Environment := do
  let values ← names.mapM fun name => return (← IO.getEnv name).map (name, ·)
  return ⟨values.filterMap id⟩

/-- The directory with the configuration of the user. -/
def userDirectory : IO String := do
  match ← IO.getEnv "XDG_CONFIG_HOME" with
  | some directory => return directory
  | none => return ((← IO.getEnv "HOME").getD "") ++ "/.config"

/-- The databases that can be opened. -/
def database (source : String) : Except String Sqlite.Catalog :=
  if source.isEmpty || source == Connection.inMemory then .ok .new
  else .error ("unable to open database file: " ++ source)

/-- The surroundings as far as the program asks for them. -/
def surroundings : IO World := do
  let fixed :=
    [Settings.pathVariable, Connection.dialectVariable,
     Connection.sourceVariable]
  let directory ← userDirectory
  let environment ← lookUp fixed
  let paths := (environment.get? Settings.pathVariable).toList
    ++ [Settings.localPath, Settings.userPath directory]
  let states ← paths.mapM fun path => return (path, ← lookAt path)
  let world : World :=
    { environment
      files := fun path => (states.lookup path).getD .absent
      userDirectory := directory
      database }
  match world.settings with
  | .ok settings =>
    return { world with environment := ← lookUp (fixed ++ settings.references) }
  | .error _ => return world

/-- The length that the head of a message gives. -/
partial def readLength (input : IO.FS.Stream) (length : Option Nat) :
    IO (Option Nat) := do
  let line ← input.getLine
  if line.isEmpty then return none
  let text := line.trimAscii.toString
  if text.isEmpty then return length
  match text.splitOn ": " with
  | ["Content-Length", count] => readLength input count.toNat?
  | _ => readLength input length

partial def readBytes (input : IO.FS.Stream) (count : Nat)
    (before : ByteArray) : IO ByteArray := do
  if count = 0 then return before
  let bytes ← input.read (USize.ofNat count)
  if bytes.isEmpty then return before
  readBytes input (count - bytes.size) (before ++ bytes)

def writeMessage (output : IO.FS.Stream) (message : Json) : IO Unit := do
  let text := message.render
  output.putStr
    ("Content-Length: " ++ toString text.utf8ByteSize ++ "\r\n\r\n" ++ text)
  output.flush

/-- Answer messages until the end. -/
partial def converse (world : World) (input output : IO.FS.Stream)
    (s : Server) : IO Unit := do
  match ← readLength input none with
  | none => return
  | some count =>
    let bytes ← readBytes input count .empty
    match (Text.decodeUtf8? bytes.toList).bind Json.parse? with
    | none => converse world input output s
    | some message =>
      if Server.isExit message then return
      let (s, out) := Server.answer world s message
      out.forM (writeMessage output)
      converse world input output s

end SchemaScope.Console

open SchemaScope Console in
def main (arguments : List String) : IO UInt32 := do
  let world ← surroundings
  let exit := Program.run world arguments
  (← IO.getStdout).putStr exit.output
  (← IO.getStderr).putStr exit.errors
  if exit.code = 0 && CommandLine.parse? arguments == some .serve then
    converse world (← IO.getStdin) (← IO.getStdout) {}
  return UInt32.ofNat exit.code

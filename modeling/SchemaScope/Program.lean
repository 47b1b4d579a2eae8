import SchemaScope.CommandLine
import SchemaScope.Inspection
import SchemaScope.Session.Server

/-!
The program: what it does for a command line.
-/

namespace SchemaScope.Program

/-- What a program leaves behind: its exit code and what it has written. -/
structure Exit where
  code : Nat := 0
  output : String := ""
  errors : String := ""
  deriving DecidableEq, Repr

def unlines (lines : List String) : String :=
  String.join (lines.map (· ++ "\n"))

def fail (message : String) : Exit where
  code := 1
  errors := unlines [message]

def usage : String := "usage"

def helpText : String :=
  unlines [
    "Usage: schemalens <COMMAND>",
    "",
    "Commands:",
    "  serve    Run the language server over stdio",
    "  inspect  Load a database's schema and print it"]

/-- Why no connection can be made out. -/
inductive ResolveError where
  | settings (e : SettingsError)
  | driver (e : ConnectionError)

def ResolveError.message : ResolveError → String
  | settings e => e.message
  | driver e => e.message

/-- The connection to inspect: the one that is named, or else the one that is
described, or else the default one of the settings, or else a database in
memory. A driver has to be known even where it is not used in the end. -/
def resolve (env : Environment) (settings : Settings)
    (options : InspectOptions) : Except ResolveError Connection :=
  match options.connection with
  | some name =>
    ((settings.connection name).bind (·.connection env)).mapError .settings
  | none => do
    let dialect ← (Dialect.ofText options.driver).mapError .driver
    match options.source, settings.defaultConnection? with
    | some source, _ => return ⟨dialect, source⟩
    | none, some (_, entry) => (entry.connection env).mapError .settings
    | none, none => return ⟨dialect, ""⟩

/-- Inspect a repository. Without any time to wait, only its topology is
seen. -/
def inspectRepository (repository : Repository) (timeout : Nat) : Exit :=
  let start : Turns Unit Repository := { world := () }
  let turns := start.bind .ofRepositories 0 repository
  match turns.bindResult? 0 with
  | some (some (.error e)) => fail ("Error loading schema: " ++ e.message)
  | _ =>
    let turns := if timeout = 0 then turns else turns.settle .ofRepositories
    { output := unlines ((turns.worker.cache?.map Inspection.lines).getD [])
      errors :=
        if turns.worker.isReady then ""
        else unlines
          ["Warning: column refresh still running, output may be partial"] }

def inspect (world : World) (settings : Settings) (options : InspectOptions) :
    Exit :=
  match resolve world.environment settings options with
  | .error e => fail ("Error: " ++ e.message)
  | .ok connection =>
    match connection.connect world.database with
    | .error e => fail ("Error: " ++ e.message)
    | .ok repository => inspectRepository repository options.timeout

/-- What a command does. A server writes what it has to say to the editor, not
here. -/
def runCommand (world : World) : Command → Exit
  | .help => { output := helpText }
  | .version => { output := unlines [programName ++ " " ++ programVersion] }
  | .serve =>
    match world.settings with
    | .error e => fail ("Error loading config: " ++ e.message)
    | .ok _ => {}
  | .inspect options =>
    match world.settings with
    | .error e => fail ("Error loading config: " ++ e.message)
    | .ok settings => inspect world settings options

def run (world : World) (arguments : List String) : Exit :=
  match CommandLine.parse? arguments with
  | some command => runCommand world command
  | none => { code := 2, errors := usage }

/-- What the server says to an editor, and how it ends. Without settings it does
not begin. -/
def serve (world : World) (messages : List Json) : List Json × Exit :=
  let exit := runCommand world .serve
  if exit.code = 0 then (Server.serve world {} messages, exit) else ([], exit)

end SchemaScope.Program

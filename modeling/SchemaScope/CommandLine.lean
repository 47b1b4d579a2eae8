/-!
The command line. The program serves an editor, or inspects a database. An
option is written with two dashes and its name or with one dash and its letter;
the value follows as the next argument or behind an equals sign, and after a
letter also directly. No option is given twice.
-/

namespace SchemaScope

/-- What is to be inspected, and how long columns and foreign keys may take. -/
structure InspectOptions where
  driver : String := "sqlite3"
  source : Option String := none
  connection : Option String := none
  timeout : Nat := 5000
  deriving DecidableEq, Repr

/-- What a command line asks for. -/
inductive Command where
  | serve
  | inspect (options : InspectOptions)
  | help
  | version
  deriving DecidableEq, Repr

namespace CommandLine

/-- An option with a value. -/
inductive Flag where
  | driver
  | source
  | connection
  | timeout
  deriving DecidableEq, Repr

def names : List (String × Flag) :=
  [("driver", .driver), ("source", .source), ("connection", .connection),
   ("timeout-ms", .timeout)]

def letters : List (Char × Flag) :=
  [('d', .driver), ('s', .source), ('c', .connection)]

inductive Argument where
  | help
  /-- An option, with its value if that is part of the argument. -/
  | option (flag : Flag) (value : Option String)
  /-- The end of the options. -/
  | dashes
  | other
  deriving DecidableEq, Repr

/-- The text before the first equals sign, and the text behind it if there is
one. -/
def splitEquals (cs : List Char) : String × Option String :=
  match cs.dropWhile (· ≠ '=') with
  | [] => (String.ofList cs, none)
  | _ :: value =>
    (String.ofList (cs.takeWhile (· ≠ '=')), some (String.ofList value))

/-- What follows the letter of an option. -/
def attached : List Char → Option String
  | [] => none
  | '=' :: value => some (String.ofList value)
  | value => some (String.ofList value)

def Argument.ofText (text : String) : Argument :=
  match text.toList with
  | ['-', '-'] => .dashes
  | '-' :: '-' :: rest =>
    match splitEquals rest with
    | ("help", none) => .help
    | (name, value) =>
      match names.lookup name with
      | some flag => .option flag value
      | none => .other
  | '-' :: 'h' :: _ => .help
  | '-' :: letter :: rest =>
    match letters.lookup letter with
    | some flag => .option flag (attached rest)
    | none => .other
  | _ => .other

/-- An argument that can be the value of the option before it. -/
def isValue (text : String) : Bool :=
  text == "-" || !text.startsWith "-"

/-- A number of milliseconds: decimal digits, perhaps behind a plus sign, below
2^64. -/
def milliseconds? (text : String) : Option Nat :=
  let digits := match text.toList with
    | '+' :: rest => rest
    | cs => cs
  if digits.isEmpty || !digits.all Char.isDigit then none
  else
    let n := digits.foldl (fun n c => 10 * n + (c.toNat - 48)) 0
    if n < Nat.pow 2 64 then some n else none

def InspectOptions.set? (options : InspectOptions) (value : String) :
    Flag → Option InspectOptions
  | .driver => some { options with driver := value }
  | .source => some { options with source := some value }
  | .connection => some { options with connection := some value }
  | .timeout => (milliseconds? value).map ({ options with timeout := · })

/-- Read the arguments of `inspect`. A source and a connection exclude each
other. -/
def inspect? :
    (given : List Flag) → InspectOptions → List String → Option Command
  | given, options, [] =>
    if given.contains .source && given.contains .connection then none
    else some (.inspect options)
  | given, options, argument :: rest =>
    match Argument.ofText argument, rest with
    | .help, _ => some .help
    | .dashes, [] => inspect? given options []
    | .dashes, _ :: _ => none
    | .other, _ => none
    | .option flag (some value), rest =>
      if given.contains flag then none
      else do
        inspect? (flag :: given) (← InspectOptions.set? options value flag) rest
    | .option _ none, [] => none
    | .option flag none, value :: rest =>
      if given.contains flag || !isValue value then none
      else do
        inspect? (flag :: given) (← InspectOptions.set? options value flag) rest

def serve? : List String → Option Command
  | [] | ["--"] => some .serve
  | argument :: _ =>
    if Argument.ofText argument = .help then some .help else none

/-- Read the arguments of `help`: it explains the program or one of its
commands. -/
def help? : List String → Option Command
  | [] | ["serve"] | ["inspect"] | ["help"] => some .help
  | _ => none

/-- Read a command line; `none` if it is not understood. -/
def parse? : List String → Option Command
  | [] => none
  | argument :: rest =>
    match argument with
    | "serve" => serve? rest
    | "inspect" => inspect? [] {} rest
    | "help" => help? rest
    | "--version" => some .version
    | "--help" => some .help
    | _ =>
      match argument.toList with
      | '-' :: 'V' :: _ => some .version
      | '-' :: 'h' :: _ => some .help
      | _ => none

end CommandLine

end SchemaScope

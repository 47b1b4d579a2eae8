import SchemaScope.Toml.Value

/-!
The tables of a document while it is read. Each table remembers how it came
about, because that decides what may still be added: a header defines a table
that was so far only implied by the header of a subtable, but no table twice,
and a dotted key adds to tables made by dotted keys only.
-/

namespace SchemaScope.Toml

/-- How a table came about. -/
inductive Origin where
  /-- A header names it. -/
  | header
  /-- The header of one of its subtables implies it. -/
  | implied
  /-- A dotted key passes through it. -/
  | dotted
  deriving DecidableEq, Repr

/-- What stands under a key: a closed value, a table, or tables that share a
header. -/
inductive Node where
  | closed (value : Value)
  | table (origin : Origin) (entries : List (String × Node))
  | tables (elements : List (List (String × Node)))

abbrev Entries := List (String × Node)

/-- Give a key its node, in the place of its former one or at the end. -/
def Entries.put (entries : Entries) (key : String) (node : Node) : Entries :=
  if entries.any (·.1 == key) then
    entries.map fun e => if e.1 == key then (key, node) else e
  else entries ++ [(key, node)]

/-- Change the table at the end of a path, creating those that are missing. A
path written as a dotted key does not enter a table that a header defined; one
written in a header enters every table, and of tables that share a header the
last. -/
def change (dotted : Bool)
    (edit : Origin → Entries → Option (Origin × Entries)) :
    (path : List String) → Origin → Entries → Option (Origin × Entries)
  | [], origin, entries => edit origin entries
  | key :: path, origin, entries =>
    match entries.lookup key with
    | none => do
      let (o, es) ←
        change dotted edit path (if dotted then .dotted else .implied) []
      return (origin, entries.put key (.table o es))
    | some (.closed _) => none
    | some (.table o es) =>
      if dotted && o == .header then none
      else do
        let (o, es) ← change dotted edit path o es
        return (origin, entries.put key (.table o es))
    | some (.tables elements) =>
      match elements.getLast? with
      | none => none
      | some es => do
        let (_, es) ← change dotted edit path .header es
        return (origin, entries.put key (.tables (elements.dropLast ++ [es])))

/-- A path taken apart before its last key. -/
def splitPath (path : List String) : Option (List String × String) :=
  path.getLast?.map fun key => (path.dropLast, key)

/-- Add a value under a dotted key. The tables on its way are made by dotted
keys, and the key is new. -/
def addValue (path : List String) (value : Value) (origin : Origin)
    (entries : Entries) : Option (Origin × Entries) := do
  let (front, key) ← splitPath path
  change true (fun o es =>
    if (o == .dotted) == front.isEmpty then none
    else if es.any (·.1 == key) then none
    else some (o, es.put key (.closed value))) front origin entries

/-- Define the table that a header names. -/
def defineTable (path : List String) (origin : Origin) (entries : Entries) :
    Option (Origin × Entries) := do
  let (front, key) ← splitPath path
  change false (fun o es =>
    match es.lookup key with
    | none => some (o, es.put key (.table .header []))
    | some (.table .implied inner) =>
      some (o, es.put key (.table .header inner))
    | some _ => none) front origin entries

/-- Begin a further table under a header that tables share. -/
def appendTable (path : List String) (origin : Origin) (entries : Entries) :
    Option (Origin × Entries) := do
  let (front, key) ← splitPath path
  change false (fun o es =>
    match es.lookup key with
    | none => some (o, es.put key (.tables [[]]))
    | some (.tables elements) =>
      some (o, es.put key (.tables (elements ++ [[]])))
    | some _ => none) front origin entries

mutual

def Node.toValue : Node → Value
  | .closed value => value
  | .table _ entries => .table (entryValues entries)
  | .tables elements => .array (elementValues elements)

/-- The fields that entries have become. -/
def entryValues : List (String × Node) → List (String × Value)
  | [] => []
  | (key, node) :: rest => (key, node.toValue) :: entryValues rest

/-- The items that tables under one header have become. -/
def elementValues : List (List (String × Node)) → List Value
  | [] => []
  | entries :: rest => .table (entryValues entries) :: elementValues rest

end

end SchemaScope.Toml

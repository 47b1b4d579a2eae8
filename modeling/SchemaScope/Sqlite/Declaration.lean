import SchemaScope.Sqlite.Catalog
import SchemaScope.Sqlite.Token

/-!
Temporary tables as their statements declare them. They belong to a connection
and stand in no file, so that a catalog may not describe them. No function of
the program reaches this module: only a test driver uses it, to complete the
catalogs that it is given.
-/

namespace SchemaScope.Sqlite

structure Declaration where
  name : String
  columns : List TableInfo := []
  /-- Foreign keys in the order of their declaration: columns, table, and
  columns of that table. -/
  keys : List (List String × String × List String) := []

namespace Declaration

/-- The tokens inside parentheses that have been opened, and what follows. -/
def inside : (depth : Nat) → List Token → List Token × List Token
  | _, [] => ([], [])
  | depth, token :: rest =>
    if token.is ")" && depth = 0 then ([], rest)
    else
      let depth :=
        if token.is "(" then depth + 1
        else if token.is ")" then depth - 1
        else depth
      let (body, rest) := inside depth rest
      (token :: body, rest)

/-- The parts between commas that stand in no parentheses. -/
def parts : (depth : Nat) → List Token → List (List Token)
  | _, [] => [[]]
  | depth, token :: rest =>
    if token.is "," && depth = 0 then [] :: parts depth rest
    else
      let depth :=
        if token.is "(" then depth + 1
        else if token.is ")" then depth - 1
        else depth
      match parts depth rest with
      | part :: more => (token :: part) :: more
      | [] => [[token]]

/-- The names in a list in parentheses at the beginning, and what follows. -/
def nameList : List Token → List String × List Token
  | token :: rest =>
    if token.is "(" then
      let (body, rest) := inside 0 rest
      ((parts 0 body).filterMap (·.head?.map Token.name), rest)
    else ([], token :: rest)
  | [] => ([], [])

/-- The words that end the type of a column. -/
def constraintWords : List String :=
  ["CONSTRAINT", "PRIMARY", "NOT", "NULL", "UNIQUE", "CHECK", "DEFAULT",
    "COLLATE", "REFERENCES", "GENERATED", "AS"]

def beginsConstraint (token : Token) : Bool :=
  constraintWords.any token.is

/-- The default value at the beginning, as it is written, and what follows. -/
def defaultValue : List Token → String × List Token
  | [] => ("", [])
  | token :: rest =>
    if token.is "(" then
      let (body, rest) := inside 0 rest
      (Token.span body, rest)
    else if token.is "+" || token.is "-" then
      (Token.span (token :: rest.take 1), rest.drop 1)
    else (Token.span [token], rest)

/-- The constraints of a column. Of those that say nothing about the description
of the table the words are passed over. -/
def constrain :
    (fuel : Nat) → Declaration → TableInfo → List Token →
      Declaration × TableInfo
  | 0, d, info, _ => (d, info)
  | _ + 1, d, info, [] => (d, info)
  | fuel + 1, d, info, token :: rest =>
    if token.is "NOT" then
      let notNull := info.notNull || rest.head?.any (·.is "NULL")
      constrain fuel d { info with notNull } (rest.drop 1)
    else if token.is "SET" then constrain fuel d info (rest.drop 1)
    else if token.is "PRIMARY" then
      constrain fuel d { info with keyPlace := 1 } (rest.drop 1)
    else if token.is "DEFAULT" then
      let (value, rest) := defaultValue rest
      constrain fuel d { info with defaultValue := some value } rest
    else if token.is "REFERENCES" then
      match rest with
      | table :: rest =>
        let (names, rest) := nameList rest
        constrain fuel
          { d with keys := d.keys ++ [([info.name], table.name, names)] }
          info rest
      | [] => (d, info)
    else if token.is "CHECK" then
      constrain fuel d info (inside 0 (rest.drop 1)).2
    else constrain fuel d info rest

/-- The types that are always written in capitals. -/
def standardTypes : List String :=
  ["ANY", "BLOB", "INT", "INTEGER", "REAL", "TEXT"]

/-- The type that tokens name, which may be quoted. -/
def typeName (tokens : List Token) : String :=
  let written := match tokens with
    | [token] => token.name
    | tokens => Token.span tokens
  (standardTypes.find? (Text.sameIgnoringCase written)).getD written

/-- A column is added to a table. One whose values are computed is not
described. -/
def addColumn (d : Declaration) : List Token → Declaration
  | [] => d
  | token :: rest =>
    let type := rest.takeWhile fun t => !beginsConstraint t
    let constraints := rest.dropWhile fun t => !beginsConstraint t
    let (d, info) :=
      constrain (rest.length + 1) d
        ⟨token.name, typeName type, false, none, 0⟩ constraints
    if constraints.any (·.is "AS") then d
    else { d with columns := d.columns ++ [info] }

/-- The columns of a primary key take their places in it. -/
def setKey (names : List String) (info : TableInfo) : TableInfo :=
  let place := names.findIdx fun name => name.toLower == info.name.toLower
  if place < names.length then { info with keyPlace := place + 1 } else info

def addConstraint (d : Declaration) : List Token → Declaration
  | token :: _ :: rest =>
    if token.is "PRIMARY" then
      { d with columns := d.columns.map (setKey (nameList rest).1) }
    else if token.is "FOREIGN" then
      let (columns, rest) := nameList rest
      match rest with
      | _ :: table :: rest =>
        { d with keys := d.keys ++ [(columns, table.name, (nameList rest).1)] }
      | _ => d
    else if token.is "CONSTRAINT" then addConstraint d rest
    else d
  | _ => d

def addPart (d : Declaration) (part : List Token) : Declaration :=
  let isConstraint := part.head?.any fun token =>
    ["CONSTRAINT", "PRIMARY", "UNIQUE", "CHECK", "FOREIGN"].any token.is
  if isConstraint then d.addConstraint part else d.addColumn part

/-- The schema, if it is named, and the name behind `IF EXISTS` or `IF NOT
EXISTS`, and what follows. -/
def tableName (tokens : List Token) :
    Option (Option String × String × List Token) :=
  let tokens :=
    if tokens.head?.any (·.is "IF") then
      (tokens.dropWhile (!·.is "EXISTS")).drop 1
    else tokens
  match tokens with
  | schema :: dot :: table :: rest =>
    if dot.is "." then some (some schema.name, table.name, rest)
    else some (none, schema.name, dot :: table :: rest)
  | table :: rest => some (none, table.name, rest)
  | [] => none

/-- Without numbers of rows, no column of the primary key may be null. -/
def withoutRowNumbers (d : Declaration) : Declaration :=
  { d with columns := d.columns.map fun info =>
      { info with notNull := info.notNull || info.keyPlace ≠ 0 } }

/-- The table with a name that the tokens behind it declare. -/
def ofBody? (name : String) : List Token → Option Declaration
  | paren :: rest =>
    if paren.is "(" then
      let (body, rest) := inside 0 rest
      let d := (parts 0 body).foldl addPart { name }
      some (if rest.any (·.is "WITHOUT") then d.withoutRowNumbers else d)
    else none
  | [] => none

/-- The temporary table that a statement declares: it says so, or it names the
schema of such tables. -/
def ofTokens? (tokens : List Token) : Option Declaration := do
  let create :: rest := tokens | none
  let isMarked := rest.head?.any fun t => t.is "TEMP" || t.is "TEMPORARY"
  let table :: rest := (if isMarked then rest.drop 1 else rest) | none
  if !create.is "CREATE" || !table.is "TABLE" then none
  let (schema, name, rest) ← tableName rest
  if isMarked || schema.any (Text.sameIgnoringCase · Catalog.temporary) then
    ofBody? name rest
  else none

/-- The name of a temporary table that is dropped or changed, and what follows.
A table whose schema is not named is looked for among the temporary ones
first. -/
def mentioned? (verb : String) : List Token → Option (String × List Token)
  | first :: table :: rest =>
    if first.is verb && table.is "TABLE" then
      match tableName rest with
      | some (none, name, rest) => some (name, rest)
      | some (some schema, name, rest) =>
        if Text.sameIgnoringCase schema Catalog.temporary then some (name, rest)
        else none
      | none => none
    else none
  | _ => none

/-- Names are the same but for their capitals. -/
def isSame (a b : String) : Bool :=
  Text.sameIgnoringCase a b

/-- A name takes the place of another one. -/
def renamed (old new name : String) : String :=
  if isSame name old then new else name

/-- A table has another name, as which others refer to it. -/
def renameTable (table new : String) (d : Declaration) : Declaration :=
  { d with
    name := renamed table new d.name
    keys := d.keys.map fun (columns, referenced, names) =>
      (columns, renamed table new referenced, names) }

/-- A column of a table has another name, as which others refer to it. -/
def renameColumn (table old new : String) (d : Declaration) : Declaration :=
  let isOwn := isSame d.name table
  let own (names : List String) :=
    if isOwn then names.map (renamed old new) else names
  { d with
    columns := d.columns.map fun info =>
      if isOwn then { info with name := renamed old new info.name } else info
    keys := d.keys.map fun (columns, referenced, names) =>
      (own columns, referenced,
        if isSame referenced table then names.map (renamed old new)
        else names) }

/-- The tokens behind a word that may be left out. -/
def behind (word : String) (tokens : List Token) : List Token :=
  if tokens.head?.any (·.is word) then tokens.drop 1 else tokens

/-- The tables after one of them has been changed. -/
def alter (declared : List Declaration) (table : String) :
    List Token → List Declaration
  | [] => declared
  | verb :: rest =>
    let change (f : Declaration → Declaration) : List Declaration :=
      declared.map fun d => if isSame d.name table then f d else d
    if verb.is "ADD" then change (addColumn · (behind "COLUMN" rest))
    else if verb.is "DROP" then
      match behind "COLUMN" rest with
      | column :: _ =>
        change fun d =>
          { d with columns := d.columns.filter (!isSame ·.name column.name) }
      | [] => declared
    else if verb.is "RENAME" then
      match rest, behind "COLUMN" rest with
      | [link, new], _ =>
        if link.is "TO" then declared.map (renameTable table new.name)
        else declared
      | _, [old, _, new] => declared.map (renameColumn table old.name new.name)
      | _, _ => declared
    else declared

/-- The tables after one more statement. A name that is taken stays with its
first table. -/
def next (declared : List Declaration) (tokens : List Token) :
    List Declaration :=
  match ofTokens? tokens, mentioned? "DROP" tokens,
    mentioned? "ALTER" tokens with
  | some d, _, _ =>
    if declared.any (isSame d.name ·.name) then declared else declared ++ [d]
  | none, some (name, _), _ => declared.filter (!isSame ·.name name)
  | none, none, some (name, rest) =>
    if declared.any (isSame ·.name name) then alter declared name rest
    else declared
  | none, none, none => declared

/-- The statements between semicolons. -/
def statements (tokens : List Token) : List (List Token) :=
  match tokens with
  | [] => [[]]
  | token :: rest =>
    if token.is ";" then [] :: statements rest
    else
      match statements rest with
      | statement :: more => (token :: statement) :: more
      | [] => [[token]]

/-- The foreign keys of a table as a database lists them: the last one has the
smallest number. -/
def foreignKeys (d : Declaration) : List ForeignKeyInfo :=
  (d.keys.reverse.zipIdx).flatMap fun ((columns, table, referenced), id) =>
    columns.zipIdx.map fun (column, place) =>
      ⟨id, place, table, column, referenced[place]?⟩

end Declaration

namespace Catalog

/-- A catalog with the temporary tables that statements declare, under the
spellings of their schema that it does not describe itself. -/
def withTemporary (c : Catalog) (described : String → Bool)
    (statements : List String) : Catalog :=
  let declared :=
    ((statements.map Token.ofStatement).flatMap Declaration.statements).foldl
      Declaration.next []
  let isTemporary (schema : String) : Bool :=
    Text.sameIgnoringCase schema temporary && !described schema
  let find? (table : String) :=
    declared.find? fun d => Text.sameIgnoringCase d.name table
  { c with
    master := fun schema =>
      if isTemporary schema then .ok (declared.map fun d => ⟨"table", d.name⟩)
      else c.master schema
    tableInfo := fun schema table =>
      if isTemporary schema then
        .ok (((find? table).map Declaration.columns).getD [])
      else c.tableInfo schema table
    foreignKeyList := fun schema table =>
      if isTemporary schema then
        .ok (((find? table).map Declaration.foreignKeys).getD [])
      else c.foreignKeyList schema table }

end Catalog

end SchemaScope.Sqlite

import SchemaScope.Toml.Scalars
import SchemaScope.Toml.Strings
import SchemaScope.Toml.Tree

/-!
TOML documents. A document is a sequence of lines, each of which is blank, a
header, or a key with a value; comments may stand at the end of each. Every
fault makes the whole document unreadable, and so do keys that are too long and
values that are nested too deeply.
-/

namespace SchemaScope.Toml

/-- The number of parts that a key may have, and the number of arrays and tables
in braces that may be open at a place. -/
def maxDepth : Nat := 80

/-- Blanks at the start of a line's remainder are removed. -/
def skipSpaces (cs : List Char) : List Char :=
  cs.dropWhile isBlank

/-- A comment at the start of a text is removed up to the end of its line. -/
def skipComment (cs : List Char) : List Char :=
  match cs with
  | '#' :: rest => rest.dropWhile isPlain
  | _ => cs

/-- The end of a line, with or without a comment in front, is removed. -/
def endLine? (cs : List Char) : Option (List Char) :=
  match skipComment (skipSpaces cs) with
  | [] => some []
  | rest => newline? rest

/-- Blanks, comments and line endings at the start of a text are removed. -/
def skipFiller : (fuel : Nat) → List Char → List Char
  | 0, cs => cs
  | fuel + 1, cs =>
    let cs := skipSpaces cs
    match newline? (skipComment cs) with
    | some rest => skipFiller fuel rest
    | none => cs

def isKeyChar (c : Char) : Bool :=
  c.isAlphanum || c == '_' || c == '-'

/-- One part of a key at the start of a text, and what follows. -/
def readKeyPart (cs : List Char) : Option (String × List Char) :=
  match cs with
  | '"' :: rest =>
    (readBasic (rest.length + 1) [] rest).map fun (k, r) => (String.ofList k, r)
  | '\'' :: rest => (readLiteral [] rest).map fun (k, r) => (String.ofList k, r)
  | _ =>
    let key := cs.takeWhile isKeyChar
    if key.isEmpty then none
    else some (String.ofList key, cs.dropWhile isKeyChar)

/-- A key of one or more parts joined by dots, and what follows it and the
blanks behind it. It has at most `room` parts. -/
def readParts : (room : Nat) → List Char → Option (List String × List Char)
  | 0, _ => none
  | room + 1, cs => do
    let (part, rest) ← readKeyPart (skipSpaces cs)
    match skipSpaces rest with
    | '.' :: rest =>
      let (more, rest) ← readParts room rest
      return (part :: more, rest)
    | rest => return ([part], rest)

/-- A key at the start of a text, and what follows it and the blanks behind
it. -/
def readKey (cs : List Char) : Option (List String × List Char) :=
  readParts maxDepth cs

/-- The key of a field in braces, and the text from its value on. A field may be
spread over lines at its equals sign, but not within its key. -/
def fieldKey? (cs : List Char) : Option (List String × List Char) := do
  let (key, rest) ← readKey cs
  match skipFiller (rest.length + 1) rest with
  | '=' :: rest => return (key, skipFiller (rest.length + 1) rest)
  | _ => none

mutual

/-- A value at the start of a text, and what follows. At most `room` arrays and
tables in braces may be opened inside one another. -/
def readValue : (fuel room : Nat) → List Char → Option (Value × List Char)
  | 0, _, _ => none
  | fuel + 1, room, cs =>
    match cs, room with
    | '"' :: _, _ =>
      (readString cs).map fun (text, rest) => (.string text, rest)
    | '\'' :: _, _ =>
      (readString cs).map fun (text, rest) => (.string text, rest)
    | '[' :: rest, room + 1 =>
      (readItems fuel room [] rest).map fun (items, rest) =>
        (.array items, rest)
    | '\x7b' :: rest, room + 1 =>
      (readFields fuel room [] rest).map fun (fields, rest) =>
        (.table (entryValues fields), rest)
    | _, _ =>
      let (word, rest) := takeWord cs
      (wordValue? word).map fun value => (value, rest)

/-- The items of an array up to its closing bracket, behind those already
read. -/
def readItems :
    (fuel room : Nat) → List Value → List Char → Option (List Value × List Char)
  | 0, _, _, _ => none
  | fuel + 1, room, before, cs =>
    match skipFiller (cs.length + 1) cs with
    | ']' :: rest => some (before.reverse, rest)
    | cs =>
      match readValue fuel room cs with
      | none => none
      | some (value, rest) =>
        match skipFiller (rest.length + 1) rest with
        | ',' :: rest => readItems fuel room (value :: before) rest
        | ']' :: rest => some ((value :: before).reverse, rest)
        | _ => none

/-- The fields of a table in braces up to its closing brace, added to those
already read. -/
def readFields :
    (fuel room : Nat) → Entries → List Char → Option (Entries × List Char)
  | 0, _, _, _ => none
  | fuel + 1, room, before, cs =>
    match skipFiller (cs.length + 1) cs with
    | '\x7d' :: rest => some (before, rest)
    | cs =>
      match fieldKey? cs with
      | none => none
      | some (key, rest) =>
        match readValue fuel room rest with
        | none => none
        | some (value, rest) =>
          match addValue key value .header before with
          | none => none
          | some (_, fields) =>
            match skipFiller (rest.length + 1) rest with
            | ',' :: rest => readFields fuel room fields rest
            | '\x7d' :: rest => some (fields, rest)
            | _ => none

end

/-- A document as far as it has been read: its tables, and the path of the one
that the latest header named. -/
structure Document where
  entries : Entries
  current : List String

/-- The document with its tables changed and another current table. -/
def Document.update (doc : Document) (current : List String)
    (edit : Origin → Entries → Option (Origin × Entries)) : Option Document :=
  (edit .header doc.entries).map fun (_, entries) => ⟨entries, current⟩

/-- Read one line. The rest of the text is returned. -/
def Document.readLine (doc : Document) (cs : List Char) :
    Option (Document × List Char) :=
  match skipSpaces cs with
  | '[' :: '[' :: rest => do
    match ← readKey rest with
    | (path, ']' :: ']' :: rest) =>
      return (← doc.update path (appendTable path), ← endLine? rest)
    | _ => none
  | '[' :: rest => do
    match ← readKey rest with
    | (path, ']' :: rest) =>
      return (← doc.update path (defineTable path), ← endLine? rest)
    | _ => none
  | cs =>
    match endLine? cs with
    | some rest => some (doc, rest)
    | none => do
      match ← readKey cs with
      | (key, '=' :: rest) =>
        let (value, rest) ←
          readValue (rest.length + 1) maxDepth (skipSpaces rest)
        return (← doc.update doc.current
          (change false (addValue key value) doc.current), ← endLine? rest)
      | _ => none

/-- Read lines until the text ends. Each line takes at least one character. -/
def Document.readLines : (fuel : Nat) → Document → List Char → Option Document
  | _, doc, [] => some doc
  | 0, _, _ :: _ => none
  | fuel + 1, doc, cs =>
    match doc.readLine cs with
    | some (doc, rest) => readLines fuel doc rest
    | none => none

/-- The fields of the table that a document describes. A byte order mark in
front is passed over. -/
def parse? (text : String) : Option (List (String × Value)) :=
  let cs := match text.toList with
    | '\uFEFF' :: rest => rest
    | cs => cs
  (Document.readLines cs.length ⟨[], []⟩ cs).map fun doc =>
    entryValues doc.entries

end SchemaScope.Toml

import SchemaScope.Json.Reader

/-!
The four kinds of TOML strings: basic strings with escapes, literal strings
without, and both over several lines. Line endings inside a string stay as the
document writes them.
-/

namespace SchemaScope.Toml

/-- A character that stands for itself in strings and comments. -/
def isPlain (c : Char) : Bool :=
  c == '\t' || (32 ≤ c.toNat && c.toNat ≠ 127)

/-- The line feed, or carriage return and line feed, at the start of a text is
removed. -/
def newline? : List Char → Option (List Char)
  | '\n' :: rest => some rest
  | '\r' :: '\n' :: rest => some rest
  | _ => none

/-- Blanks and line endings at the start of a text are removed. -/
def skipBlankLines : List Char → List Char
  | ' ' :: rest => skipBlankLines rest
  | '\t' :: rest => skipBlankLines rest
  | '\n' :: rest => skipBlankLines rest
  | '\r' :: '\n' :: rest => skipBlankLines rest
  | cs => cs

/-- The character with a number, if it is one. -/
def scalar? (n : Nat) : Option Char :=
  if n.isValidChar then some (Char.ofNat n) else none

/-- The character of an escape behind its backslash, and what follows. -/
def readEscape : List Char → Option (Char × List Char)
  | 'b' :: rest => some ('\x08', rest)
  | 't' :: rest => some ('\t', rest)
  | 'n' :: rest => some ('\n', rest)
  | 'f' :: rest => some ('\x0c', rest)
  | 'r' :: rest => some ('\r', rest)
  | 'e' :: rest => some ('\x1b', rest)
  | '"' :: rest => some ('"', rest)
  | '\\' :: rest => some ('\\', rest)
  | 'x' :: rest => number 2 rest
  | 'u' :: rest => number 4 rest
  | 'U' :: rest => number 8 rest
  | _ => none
where
  /-- A character given by a fixed count of hexadecimal digits. -/
  number (count : Nat) (cs : List Char) : Option (Char × List Char) := do
    if cs.length < count then none
    let n ← Json.hexNumber? (cs.take count)
    let c ← scalar? n
    return (c, cs.drop count)

/-- A basic string behind its opening quote, and what follows. `before` holds
the characters already read, in reverse. -/
def readBasic :
    (fuel : Nat) → (before : List Char) → List Char →
      Option (List Char × List Char)
  | 0, _, _ => none
  | _ + 1, _, [] => none
  | _ + 1, before, '"' :: rest => some (before.reverse, rest)
  | fuel + 1, before, '\\' :: rest =>
    match readEscape rest with
    | some (c, rest) => readBasic fuel (c :: before) rest
    | none => none
  | fuel + 1, before, c :: rest =>
    if isPlain c then readBasic fuel (c :: before) rest else none

/-- A literal string behind its opening quote, and what follows. -/
def readLiteral (before : List Char) :
    List Char → Option (List Char × List Char)
  | [] => none
  | '\'' :: rest => some (before.reverse, rest)
  | c :: rest => if isPlain c then readLiteral (c :: before) rest else none

/-- The run of quotes at a place where a string over several lines may end:
fewer than three belong to the string, and of five at most the last three close
it. The flag says whether they do. -/
def closing? (quote : Char) (cs : List Char) :
    Option (List Char × Bool × List Char) :=
  let run := (cs.takeWhile (· == quote)).length
  if run < 3 then some (List.replicate run quote, false, cs.drop run)
  else if run ≤ 5 then some (List.replicate (run - 3) quote, true, cs.drop run)
  else none

/-- A string over several lines behind its opening quotes, and what follows.
Escapes are read in basic strings only, where a backslash at the end of a line
also removes the blanks that follow. -/
def readLong (quote : Char) (escapes : Bool) :
    (fuel : Nat) → (before : List Char) → List Char →
      Option (List Char × List Char)
  | 0, _, _ => none
  | _ + 1, _, [] => none
  | fuel + 1, before, c :: rest =>
    if c == quote then
      match closing? quote (c :: rest) with
      | some (own, true, rest) => some ((own.reverse ++ before).reverse, rest)
      | some (own, false, rest) =>
        readLong quote escapes fuel (own.reverse ++ before) rest
      | none => none
    else if escapes && c == '\\' then
      match newline? (rest.dropWhile fun c => c == ' ' || c == '\t') with
      | some rest => readLong quote escapes fuel before (skipBlankLines rest)
      | none =>
        match readEscape rest with
        | some (c, rest) => readLong quote escapes fuel (c :: before) rest
        | none => none
    else
      let isEnding := c == '\n' || (c == '\r' && rest.head? == some '\n')
      if isPlain c || isEnding then
        readLong quote escapes fuel (c :: before) rest
      else none

/-- A string at the start of a text, and what follows; `none` if there is none
or it is malformed. -/
def readString (cs : List Char) : Option (String × List Char) :=
  let result := match cs with
    | '"' :: '"' :: '"' :: rest =>
      readLong '"' true (rest.length + 1) [] ((newline? rest).getD rest)
    | '\'' :: '\'' :: '\'' :: rest =>
      readLong '\'' false (rest.length + 1) [] ((newline? rest).getD rest)
    | '"' :: rest => readBasic (rest.length + 1) [] rest
    | '\'' :: rest => readLiteral [] rest
    | _ => none
  result.map fun (text, rest) => (String.ofList text, rest)

end SchemaScope.Toml

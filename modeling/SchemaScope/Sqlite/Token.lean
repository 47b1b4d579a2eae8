/-!
The words of an SQL statement. Every token keeps the blanks and comments in
front of it, so that the text of a part of a statement can be put together again
as it was written. No function of the program reaches this module: statements
are taken apart for the declarations of temporary tables, which only a test
driver reads.
-/

namespace SchemaScope.Sqlite

/-- A word, a number, a quoted name or text, or a sign. -/
structure Token where
  /-- The blanks and comments in front. -/
  gap : List Char
  text : List Char
  deriving DecidableEq, Repr

namespace Token

def isWordChar (c : Char) : Bool :=
  c.isAlphanum || c == '_' || c == '$' || 127 < c.toNat

/-- The quote that ends what a quote begins. -/
def closing? (c : Char) : Option Char :=
  if c == '"' || c == '\'' || c == '\x60' then some c
  else if c == '[' then some ']'
  else none

/-- The text up to a closing quote, with the quote. A quote that stands twice
does not close. -/
def takeQuoted (close : Char) : List Char → List Char × List Char
  | [] => ([], [])
  | c :: rest =>
    if c ≠ close then
      let (text, rest) := takeQuoted close rest
      (c :: text, rest)
    else
      match rest with
      | d :: more =>
        if d = close then
          let (text, rest) := takeQuoted close more
          (c :: d :: text, rest)
        else ([c], rest)
      | [] => ([c], [])

/-- A number up to its end, and what follows. A sign belongs to it only behind
the letter of an exponent. -/
def takeNumber : List Char → List Char × List Char
  | [] => ([], [])
  | c :: rest =>
    let mark := if c == 'e' || c == 'E' then rest.take 1 else []
    if isWordChar c || c == '.' then
      if mark == ['+'] || mark == ['-'] then
        let digits := (rest.drop 1).takeWhile isWordChar
        (c :: mark ++ digits, (rest.drop 1).dropWhile isWordChar)
      else
        let (number, rest) := takeNumber rest
        (c :: number, rest)
    else ([], c :: rest)

/-- The first token of a text that does not begin with a blank, and what
follows. Bytes are written as a letter and a quoted text. -/
def first : List Char → List Char × List Char
  | [] => ([], [])
  | c :: rest =>
    let next := rest.head?.getD ' '
    match closing? c with
    | some close =>
      let (text, rest) := takeQuoted close rest
      (c :: text, rest)
    | none =>
      if (c == 'x' || c == 'X') && next == '\'' then
        let (text, rest) := takeQuoted next (rest.drop 1)
        (c :: next :: text, rest)
      else if c.isDigit || (c == '.' && next.isDigit) then
        takeNumber (c :: rest)
      else if isWordChar c then
        (c :: rest.takeWhile isWordChar, rest.dropWhile isWordChar)
      else ([c], rest)

/-- A comment up to its end, and what follows. -/
def takeComment : List Char → List Char × List Char
  | '*' :: '/' :: rest => (['*', '/'], rest)
  | c :: rest =>
    let (comment, rest) := takeComment rest
    (c :: comment, rest)
  | [] => ([], [])

/-- The blanks and comments at the start of a text, and what follows. -/
def takeGap : (fuel : Nat) → List Char → List Char × List Char
  | 0, cs => ([], cs)
  | fuel + 1, cs =>
    match cs with
    | '-' :: '-' :: rest =>
      passed fuel (cs.takeWhile (· ≠ '\n')) (rest.dropWhile (· ≠ '\n'))
    | '/' :: '*' :: rest =>
      let (comment, rest) := takeComment rest
      passed fuel ('/' :: '*' :: comment) rest
    | c :: rest => if c.isWhitespace then passed fuel [c] rest else ([], cs)
    | [] => ([], [])
where
  /-- A part of the gap is passed. -/
  passed (fuel : Nat) (part rest : List Char) : List Char × List Char :=
    let (gap, rest) := takeGap fuel rest
    (part ++ gap, rest)

/-- The tokens of a text. Each takes at least one character. -/
def read : (fuel : Nat) → List Char → List Token
  | 0, _ => []
  | fuel + 1, cs =>
    match takeGap cs.length cs with
    | (_, []) => []
    | (gap, text) =>
      let (token, rest) := first text
      ⟨gap, token⟩ :: read fuel rest

def ofStatement (sql : String) : List Token :=
  read sql.length sql.toList

/-- A token is a word, whatever its case. -/
def is (token : Token) (word : String) : Bool :=
  token.text.map Char.toUpper == word.toList

def name (token : Token) : String :=
  match token.text with
  | c :: rest =>
    match closing? c with
    | some close => String.ofList (single close rest.dropLast)
    | none => String.ofList token.text
  | [] => ""
where
  /-- Quotes that stand twice are taken once. -/
  single (close : Char) : List Char → List Char
    | c :: d :: rest =>
      if c = close ∧ d = close then c :: single close rest
      else c :: single close (d :: rest)
    | cs => cs

/-- The text of tokens as it was written, without what stands in front. -/
def span : List Token → String
  | [] => ""
  | token :: rest =>
    String.ofList (token.text ++ rest.flatMap fun t => t.gap ++ t.text)

end Token

end SchemaScope.Sqlite

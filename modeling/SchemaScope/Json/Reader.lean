import SchemaScope.Json.Number

/-!
Reading a JSON value from a text. Anything but one well-formed value, with
blanks around it, is refused.
-/

namespace SchemaScope.Json

/-- Blank characters between the parts of a value. -/
def skipBlanks (cs : List Char) : List Char :=
  cs.dropWhile fun c => c == ' ' || c == '\t' || c == '\n' || c == '\r'

def hexDigit? (c : Char) : Option Nat :=
  if '0' ≤ c && c ≤ '9' then some (c.toNat - 48)
  else if 'a' ≤ c && c ≤ 'f' then some (c.toNat - 87)
  else if 'A' ≤ c && c ≤ 'F' then some (c.toNat - 55)
  else none

def hexNumber? (cs : List Char) : Option Nat :=
  cs.foldlM (fun n c => (hexDigit? c).map (16 * n + ·)) 0

/-- A piece of a string as written: a character, or a UTF-16 unit given by
number. -/
inductive StringPiece where
  | char (c : Char)
  | unit (n : Nat)

/-- The character that a backslash and a letter stand for. -/
def escaped? : Char → Option Char
  | '"' => some '"'
  | '\\' => some '\\'
  | '/' => some '/'
  | 'b' => some '\x08'
  | 'f' => some '\x0c'
  | 'n' => some '\n'
  | 'r' => some '\r'
  | 't' => some '\t'
  | _ => none

/-- The pieces of a string up to its closing quote, behind those already
read. -/
def readPieces (before : List StringPiece) :
    List Char → Option (List StringPiece × List Char)
  | [] => none
  | '"' :: rest => some (before.reverse, rest)
  | '\\' :: 'u' :: a :: b :: c :: d :: rest =>
    match hexNumber? [a, b, c, d] with
    | some n => readPieces (.unit n :: before) rest
    | none => none
  | '\\' :: c :: rest =>
    match escaped? c with
    | some e => readPieces (.char e :: before) rest
    | none => none
  | c :: rest =>
    if c.toNat < 32 || c == '\\' then none
    else readPieces (.char c :: before) rest

/-- The characters of a string: two units of a surrogate pair form one
character, and a surrogate without its partner is refused. -/
def joinPieces : List StringPiece → Option (List Char)
  | [] => some []
  | .char c :: rest => (joinPieces rest).map (c :: ·)
  | .unit high :: .unit low :: rest =>
    if 0xD800 ≤ high && high < 0xDC00 then
      if 0xDC00 ≤ low && low < 0xE000 then
        (joinPieces rest).map
          (Char.ofNat (0x10000 + (high - 0xD800) * 0x400 + (low - 0xDC00)) :: ·)
      else none
    else if 0xDC00 ≤ high && high < 0xE000 then none
    else (joinPieces (.unit low :: rest)).map (Char.ofNat high :: ·)
  | .unit n :: rest =>
    if 0xD800 ≤ n && n < 0xE000 then none
    else (joinPieces rest).map (Char.ofNat n :: ·)

/-- A string behind its opening quote. -/
def readString (cs : List Char) : Option (String × List Char) := do
  let (pieces, rest) ← readPieces [] cs
  let chars ← joinPieces pieces
  return (String.ofList chars, rest)

def takeDigits (cs : List Char) : List Char × List Char :=
  (cs.takeWhile Char.isDigit, cs.dropWhile Char.isDigit)

/-- The sign at the start of a number, and the rest. -/
def readSign : List Char → Bool × List Char
  | '-' :: rest => (true, rest)
  | cs => (false, cs)

/-- The places behind the point of a number, if it has one, and the rest. -/
def readPlaces : List Char → Option (Option (List Char) × List Char)
  | '.' :: rest =>
    let (places, rest) := takeDigits rest
    if places.isEmpty then none else some (some places, rest)
  | cs => some (none, cs)

/-- The exponent of a number, if it has one, and the rest. -/
def readExponent : List Char → Option (Option Int × List Char)
  | [] => some (none, [])
  | e :: rest =>
    if e == 'e' || e == 'E' then
      let (sign, rest) : Int × List Char := match rest with
        | '-' :: rest => (-1, rest)
        | '+' :: rest => (1, rest)
        | _ => (1, rest)
      let (digits, rest) := takeDigits rest
      if digits.isEmpty then none
      else some (some (sign * digitsValue digits), rest)
    else some (none, e :: rest)

def readNumber (cs : List Char) : Option (Json × List Char) := do
  let (negative, cs) := readSign cs
  let (whole, cs) := takeDigits cs
  if whole.isEmpty || (1 < whole.length && whole.head? == some '0') then none
  let (places, cs) ← readPlaces cs
  let (exponent, cs) ← readExponent cs
  return (← numberValue? negative whole places exponent, cs)

mutual

/-- A value at the start of a text, with at most `depth` steps of nesting and
length. -/
def readValue : (depth : Nat) → List Char → Option (Json × List Char)
  | 0, _ => none
  | depth + 1, cs =>
    match skipBlanks cs with
    | 'n' :: 'u' :: 'l' :: 'l' :: rest => some (.null, rest)
    | 't' :: 'r' :: 'u' :: 'e' :: rest => some (.bool true, rest)
    | 'f' :: 'a' :: 'l' :: 's' :: 'e' :: rest => some (.bool false, rest)
    | '"' :: rest => (readString rest).map fun (s, rest) => (.string s, rest)
    | '[' :: rest =>
      match skipBlanks rest with
      | ']' :: rest => some (.array [], rest)
      | rest =>
        (readItems depth [] rest).map fun (items, rest) => (.array items, rest)
    | '\x7b' :: rest =>
      match skipBlanks rest with
      | '\x7d' :: rest => some (.object [], rest)
      | rest =>
        (readFields depth [] rest).map fun (fields, rest) =>
          (.object fields, rest)
    | rest => readNumber rest

/-- The items of an array up to its closing bracket, behind those already
read. -/
def readItems :
    (depth : Nat) → List Json → List Char → Option (List Json × List Char)
  | 0, _, _ => none
  | depth + 1, before, cs =>
    match readValue depth cs with
    | none => none
    | some (item, rest) =>
      match skipBlanks rest with
      | ',' :: rest => readItems depth (item :: before) rest
      | ']' :: rest => some ((item :: before).reverse, rest)
      | _ => none

/-- The fields of an object up to its closing brace, behind those already
read. -/
def readFields :
    (depth : Nat) → List (String × Json) → List Char →
      Option (List (String × Json) × List Char)
  | 0, _, _ => none
  | depth + 1, before, cs =>
    match skipBlanks cs with
    | '"' :: rest =>
      match readString rest with
      | none => none
      | some (name, rest) =>
        match skipBlanks rest with
        | ':' :: rest =>
          match readValue depth rest with
          | none => none
          | some (value, rest) =>
            match skipBlanks rest with
            | ',' :: rest => readFields depth ((name, value) :: before) rest
            | '\x7d' :: rest => some (((name, value) :: before).reverse, rest)
            | _ => none
        | _ => none
    | _ => none

end

def parse? (text : String) : Option Json :=
  let cs := text.toList
  match readValue (cs.length + 1) cs with
  | some (value, rest) => if (skipBlanks rest).isEmpty then some value else none
  | none => none

end SchemaScope.Json

import SchemaScope.Json.Reader
import SchemaScope.Toml.Value

/-!
TOML numbers, dates and truth values, which are written without quotes. A word
that is none of them makes the document unreadable; a number too large to be
held does so only where its value is asked for.
-/

namespace SchemaScope.Toml

/-- Every underscore stands between two digits. -/
def isGrouped (isDigit : Char → Bool) (cs : List Char) : Bool :=
  cs.head? ≠ some '_' && cs.getLast? ≠ some '_' &&
    (cs.zip cs.tail).all fun (a, b) =>
      (a ≠ '_' || isDigit b) && (b ≠ '_' || isDigit a)

def ungrouped (cs : List Char) : List Char :=
  cs.filter (· ≠ '_')

def isDigitOf (base : Nat) (c : Char) : Bool :=
  (Json.hexDigit? c).any (· < base)

/-- The number that digits write in some base, if they are such digits. -/
def numberOf? (base : Nat) (digits : List Char) : Option Nat :=
  if !digits.isEmpty && digits.all (isDigitOf base) then
    some (digits.foldl (fun n c => base * n + (Json.hexDigit? c).getD 0) 0)
  else none

/-- A whole number, provided that 128 bits can hold it. -/
def held? (negative : Bool) (n : Nat) : Option Int :=
  if negative then
    if n ≤ Nat.pow 2 127 then some (-n) else none
  else if n < Nat.pow 2 128 then some n else none

/-- A whole number in another base than ten, behind the letter that names the
base. Nothing but digits and underscores may follow that letter, and nothing has
to. -/
def basedInteger? (base : Nat) (body : List Char) : Option Value :=
  if body.all (fun c => c == '_' || isDigitOf base c)
      && isGrouped (isDigitOf 16) body then
    some (.integer ((numberOf? base (ungrouped body)).bind (held? false)))
  else none

/-- A decimal number begins with a zero though it has further digits. -/
def hasNeedlessZero (digits : List Char) : Bool :=
  1 < digits.length && digits.head? == some '0'

/-- A whole decimal number behind its sign. Of what follows an underscore only
the places of further underscores are looked at, and there the digits of every
base pass. -/
def decimalInteger? (negative : Bool) (cs : List Char) : Option Value :=
  if hasNeedlessZero cs || !isGrouped (isDigitOf 16) cs then none
  else some (.integer ((numberOf? 10 (ungrouped cs)).bind (held? negative)))

/-- The sign at the start of a number, and the rest. -/
def takeSign : List Char → Bool × List Char
  | '+' :: rest => (false, rest)
  | '-' :: rest => (true, rest)
  | cs => (false, cs)

/-- The digits at the start of a text, in which underscores may stand, and the
rest. -/
def takeGroups? (cs : List Char) : Option (List Char × List Char) :=
  let isPart (c : Char) := c.isDigit || c == '_'
  let digits := ungrouped (cs.takeWhile isPart)
  if digits.isEmpty then none else some (digits, cs.dropWhile isPart)

/-- The exponent at the start of a text, and the rest. -/
def takeExponent? : List Char → Option (Int × List Char)
  | [] => some (0, [])
  | c :: rest =>
    if c == 'e' || c == 'E' then
      let (negative, rest) := takeSign rest
      (takeGroups? rest).map fun (digits, rest) =>
        let size : Int := Json.digitsValue digits
        (if negative then -size else size, rest)
    else some (0, c :: rest)

def finite? : Decimal.Binary64 → Option Decimal.Binary64
  | .infinite _ => none
  | number => some number

/-- A number with a fraction, an exponent or both, behind its sign. -/
def decimalFloat? (negative : Bool) (cs : List Char) : Option Value := do
  let (whole, rest) ← takeGroups? cs
  let (places, rest) ← match rest with
    | '.' :: rest => takeGroups? rest
    | _ => some ([], rest)
  let (exponent, rest) ← takeExponent? rest
  if hasNeedlessZero whole || !rest.isEmpty || !isGrouped Char.isDigit cs then
    none
  let digits := Json.digitsValue (whole ++ places)
  some (.float
    (finite? (.ofDecimal negative digits (exponent - places.length))))

/-- A number of a fixed count of decimal digits at the start of a text, and the
rest. -/
def fixed? (count : Nat) (cs : List Char) : Option (Nat × List Char) :=
  let digits := cs.take count
  if digits.length == count && digits.all Char.isDigit then
    some (Json.digitsValue digits, cs.drop count)
  else none

/-- A certain character at the start of a text is removed. -/
def skip? (c : Char) : List Char → Option (List Char)
  | d :: rest => if d == c then some rest else none
  | [] => none

def daysIn (year month : Nat) : Nat :=
  if month == 2 then
    if (year % 4 == 0 && year % 100 ≠ 0) || year % 400 == 0 then 29 else 28
  else if month == 4 || month == 6 || month == 9 || month == 11 then 30
  else 31

def skipDay? (cs : List Char) : Option (List Char) := do
  let (year, cs) ← fixed? 4 cs
  let cs ← skip? '-' cs
  let (month, cs) ← fixed? 2 cs
  let cs ← skip? '-' cs
  let (day, cs) ← fixed? 2 cs
  if 1 ≤ month && month ≤ 12 && 1 ≤ day && day ≤ daysIn year month then some cs
  else none

/-- The seconds of a time, with or without a fraction, are removed; a time may
do without them. -/
def skipSeconds? (cs : List Char) : Option (List Char) :=
  match cs with
  | ':' :: rest => do
    let (second, rest) ← fixed? 2 rest
    if 60 < second then none
    match rest with
    | '.' :: places =>
      let (digits, rest) := Json.takeDigits places
      if digits.isEmpty then none else some rest
    | _ => some rest
  | _ => some cs

def skipTime? (cs : List Char) : Option (List Char) := do
  let (hour, cs) ← fixed? 2 cs
  let cs ← skip? ':' cs
  let (minute, cs) ← fixed? 2 cs
  if hour ≤ 23 && minute ≤ 59 then skipSeconds? cs else none

/-- What follows the time of a date is nothing or a distance from universal
time. -/
def isOffset : List Char → Bool
  | [] => true
  | ['Z'] => true
  | ['z'] => true
  | c :: rest =>
    (c == '+' || c == '-') &&
      match fixed? 2 rest with
      | some (hour, ':' :: rest) =>
        match fixed? 2 rest with
        | some (minute, []) => hour ≤ 23 && minute ≤ 59
        | _ => false
      | _ => false

/-- A day, a time, or both. -/
def isDate (cs : List Char) : Bool :=
  match skipDay? cs with
  | some [] => true
  | some (c :: rest) =>
    (c == 'T' || c == 't' || c == ' ') &&
      match skipTime? rest with
      | some offset => isOffset offset
      | none => false
  | none => skipTime? cs == some []

/-- The value of a decimal number behind its sign, or of a date, which has none.
What follows the leading digits decides which of them a word is. -/
def decimalValue? (sign : Option Bool) (cs : List Char) : Option Value :=
  let negative := sign == some true
  match cs.dropWhile Char.isDigit with
  | [] => if cs.isEmpty then none else decimalInteger? negative cs
  | c :: rest =>
    if c == '-' || c == ':' then
      if sign.isNone && isDate cs then some (.date (String.ofList cs)) else none
    else if rest.contains ' ' then none
    else if (c :: rest).any fun c => c == '.' || c == 'e' || c == 'E' then
      decimalFloat? negative cs
    else if c == '_' then decimalInteger? negative cs
    else none

/-- The value of a number behind its sign. Only one without a sign may have
another base than ten. -/
def numberValue? (sign : Option Bool) (cs : List Char) : Option Value :=
  match cs with
  | ['i', 'n', 'f'] => some (.float (some (.infinite (sign == some true))))
  | ['n', 'a', 'n'] => some (.float (some .nan))
  | '0' :: 'x' :: body => if sign.isNone then basedInteger? 16 body else none
  | '0' :: 'o' :: body => if sign.isNone then basedInteger? 8 body else none
  | '0' :: 'b' :: body => if sign.isNone then basedInteger? 2 body else none
  | _ => decimalValue? sign cs

/-- The value that a word without quotes stands for. -/
def wordValue? : List Char → Option Value
  | ['t', 'r', 'u', 'e'] => some (.boolean true)
  | ['f', 'a', 'l', 's', 'e'] => some (.boolean false)
  | '+' :: cs => numberValue? (some false) cs
  | '-' :: cs => numberValue? (some true) cs
  | cs => numberValue? none cs

/-- A space or a tab. -/
def isBlank (c : Char) : Bool :=
  c == ' ' || c == '\t'

def isWordChar (c : Char) : Bool :=
  !(isBlank c ||
    ['=', ',', '[', ']', '\x7b', '\x7d', '#', '\r', '\n'].contains c)

/-- A further part of a word begins here. -/
def continuesWord (cs : List Char) : Bool :=
  cs.head?.any fun c => isWordChar c && c ≠ '.' && c ≠ '"' && c ≠ '\''

/-- A word without quotes at the start of a text, and the rest. Blanks between
its parts belong to it, so that a day and a time are one word. -/
def takeWord : List Char → List Char × List Char
  | [] => ([], [])
  | c :: rest =>
    if isWordChar c
        || (isBlank c && continuesWord (rest.dropWhile isBlank)) then
      let (word, rest) := takeWord rest
      (c :: word, rest)
    else ([], c :: rest)

end SchemaScope.Toml

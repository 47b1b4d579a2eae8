import SchemaScope.Uri.Percent

/-!
Hosts that are given by numbers. An address of version 4 may be written with
fewer than four parts, and its parts in octal or hexadecimal; it is always
printed as four decimal bytes. In an address of version 6 the first of the
longest runs of zeros is left out.
-/

namespace SchemaScope.Uri

/-- The parts of a text between certain characters. -/
def splitAt (isMark : Char → Bool) : List Char → List (List Char)
  | [] => [[]]
  | c :: rest =>
    if isMark c then [] :: splitAt isMark rest
    else
      match splitAt isMark rest with
      | part :: more => (c :: part) :: more
      | [] => [[c]]

/-- The number that digits write in some base; no digits at all write zero. -/
def numberIn? (base : Nat) (cs : List Char) : Option Nat :=
  cs.foldlM
    (fun n c => ((digitValue? c).filter (· < base)).map (base * n + ·)) 0

/-- A part of an address of version 4: hexadecimal behind `0x`, octal behind a
zero, or decimal. -/
def part? : List Char → Option Nat
  | [] => none
  | ['0'] => some 0
  | '0' :: c :: rest =>
    if c == 'x' || c == 'X' then numberIn? 16 rest else numberIn? 8 (c :: rest)
  | cs => numberIn? 10 cs

/-- The parts of a name between its points, without an empty one at the end. -/
def labels (name : List Char) : List (List Char) :=
  let parts := splitAt (· == '.') name
  if 1 < parts.length && parts.getLast? == some [] then parts.dropLast
  else parts

/-- A name is to be an address of version 4, because its last part is a
number. -/
def endsInNumber (name : List Char) : Bool :=
  match (labels name).getLast? with
  | some last => (!last.isEmpty && last.all Char.isDigit) || (part? last).isSome
  | none => false

/-- The number of an address of version 4. The last part stands for all bytes
that are left. -/
def ipv4? (name : List Char) : Option Nat := do
  let parts := labels name
  if 4 < parts.length then none
  let numbers ← parts.mapM part?
  let last ← numbers.getLast?
  let front := numbers.dropLast
  if front.any (255 < ·) || Nat.pow 256 (4 - front.length) ≤ last then none
  let high := front.zipIdx.map fun (n, place) => n * Nat.pow 256 (3 - place)
  return last + high.foldl (· + ·) 0

def ipv4Text (address : Nat) : List Char :=
  let byte (place : Nat) := Nat.toDigits 10 (address / Nat.pow 256 place % 256)
  byte 3 ++ '.' :: byte 2 ++ '.' :: byte 1 ++ '.' :: byte 0

/-- Four decimal bytes without needless zeros, as two pieces of an address of
version 6. -/
def dotted? (cs : List Char) : Option (List Nat) :=
  let byte? (cs : List Char) : Option Nat :=
    if cs.isEmpty || (1 < cs.length && cs.head? == some '0') then none
    else (numberIn? 10 cs).filter (· ≤ 255)
  match (splitAt (· == '.') cs).mapM byte? with
  | some [a, b, c, d] => some [256 * a + b, 256 * c + d]
  | _ => none

def piece? (cs : List Char) : Option Nat :=
  if cs.isEmpty || 4 < cs.length then none else numberIn? 16 cs

/-- The pieces between colons. The last two may be written as four bytes where
the address ends. -/
def pieces? (isEnd : Bool) (cs : List Char) : Option (List Nat) :=
  if cs.isEmpty then some []
  else
    let parts := splitAt (· == ':') cs
    match parts.getLast?.bind dotted? with
    | some tail =>
      if isEnd then (parts.dropLast.mapM piece?).map (· ++ tail) else none
    | none => parts.mapM piece?

/-- The text in front of two colons and the text behind them. -/
def cutColons? : List Char → Option (List Char × List Char)
  | ':' :: ':' :: rest => some ([], rest)
  | c :: rest => (cutColons? rest).map fun (front, back) => (c :: front, back)
  | [] => none

/-- The eight pieces of an address of version 6. Two colons stand for one or
more zeros. -/
def ipv6? (cs : List Char) : Option (List Nat) :=
  match cutColons? cs with
  | none => (pieces? true cs).filter (·.length == 8)
  | some (front, back) => do
    let front ← pieces? false front
    let back ← pieces? true back
    let count := front.length + back.length
    if count < 8 then some (front ++ List.replicate (8 - count) 0 ++ back)
    else none

/-- The number of zeros at the beginning. -/
def zeros (pieces : List Nat) : Nat :=
  (pieces.takeWhile (· == 0)).length

def longestRun : List Nat → Nat
  | [] => 0
  | piece :: rest => max (zeros (piece :: rest)) (longestRun rest)

/-- The place of the first run of zeros of some length. -/
def runPlace (length : Nat) : List Nat → Nat
  | [] => 0
  | piece :: rest =>
    if zeros (piece :: rest) == length then 0 else 1 + runPlace length rest

def piecesText (pieces : List Nat) : List Char :=
  [':'].intercalate (pieces.map (Nat.toDigits 16))

/-- An address of version 6 as it is printed. A single zero is not left out. -/
def ipv6Text (pieces : List Nat) : List Char :=
  let length := longestRun pieces
  if length < 2 then piecesText pieces
  else
    let place := runPlace length pieces
    piecesText (pieces.take place) ++ ':' :: ':' ::
      piecesText (pieces.drop (place + length))

end SchemaScope.Uri

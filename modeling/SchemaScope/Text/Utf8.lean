/-!
UTF-8. A text is read from bytes either strictly, when every byte has to belong
to a well-formed character, or loosely, when each longest ill-formed piece that
could still have begun a character is replaced by one U+FFFD.
-/

namespace SchemaScope.Text

/-- A byte that continues a character. -/
def isTail (b : Nat) : Bool :=
  0x80 ≤ b && b ≤ 0xBF

/-- How many bytes follow a first byte, and the range of the next one; `none` if
no character of more than one byte begins so. -/
def tailShape (first : Nat) : Option (Nat × Nat × Nat) :=
  if 0xC2 ≤ first && first ≤ 0xDF then some (1, 0x80, 0xBF)
  else if first == 0xE0 then some (2, 0xA0, 0xBF)
  else if first == 0xED then some (2, 0x80, 0x9F)
  else if 0xE1 ≤ first && first ≤ 0xEF then some (2, 0x80, 0xBF)
  else if first == 0xF0 then some (3, 0x90, 0xBF)
  else if 0xF1 ≤ first && first ≤ 0xF3 then some (3, 0x80, 0xBF)
  else if first == 0xF4 then some (3, 0x80, 0x8F)
  else none

/-- The bits of a first byte that belong to the code point, when `count` bytes
follow. -/
def leadBits (first count : Nat) : Nat :=
  if count == 1 then first % 32
  else if count == 2 then first % 16
  else first % 8

/-- What is still owed of the character being read: how many bytes, the range of
the next of them, and the bits read so far. -/
structure OpenChar where
  owed : Nat
  low : Nat
  high : Nat
  bits : Nat
  deriving Repr, DecidableEq

/-- A piece of the bytes: a character, or a longest piece that is none. -/
inductive Piece where
  | char (c : Char)
  | illFormed
  deriving Repr, DecidableEq

/-- Read a byte between characters. -/
def startByte (b : Nat) : List Piece × Option OpenChar :=
  if b < 0x80 then ([.char (Char.ofNat b)], none)
  else match tailShape b with
    | some (count, low, high) => ([], some ⟨count, low, high, leadBits b count⟩)
    | none => ([.illFormed], none)

/-- Read a byte. One that cannot continue the open character closes it as
ill-formed and is then read afresh. -/
def nextByte (state : Option OpenChar) (b : Nat) :
    List Piece × Option OpenChar :=
  match state with
  | none => startByte b
  | some pending =>
    if pending.low ≤ b && b ≤ pending.high then
      let bits := pending.bits * 64 + b % 64
      if pending.owed ≤ 1 then ([.char (Char.ofNat bits)], none)
      else ([], some ⟨pending.owed - 1, 0x80, 0xBF, bits⟩)
    else
      let (pieces, after) := startByte b
      (.illFormed :: pieces, after)

/-- The pieces of a byte sequence, from a given state. -/
def piecesFrom (state : Option OpenChar) : List UInt8 → List Piece
  | [] => if state.isSome then [.illFormed] else []
  | b :: rest =>
    let (pieces, after) := nextByte state b.toNat
    pieces ++ piecesFrom after rest

def pieces (bytes : List UInt8) : List Piece :=
  piecesFrom none bytes

/-- The character of a piece, if it is one. -/
def Piece.char? : Piece → Option Char
  | .char c => some c
  | .illFormed => none

/-- The text of a byte sequence, if it is well-formed throughout. -/
def decodeUtf8? (bytes : List UInt8) : Option String :=
  ((pieces bytes).mapM Piece.char?).map String.ofList

/-- The text of a byte sequence, with U+FFFD for each ill-formed piece. -/
def decodeUtf8Loosely (bytes : List UInt8) : String :=
  String.ofList ((pieces bytes).map fun piece => piece.char?.getD '\uFFFD')

end SchemaScope.Text

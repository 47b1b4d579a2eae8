/-!
Percent-encoding. A character that must not stand in some part of a URI is
written as its UTF-8 bytes, each as a percent sign and two hexadecimal digits.
What is written so already is left as it is.
-/

namespace SchemaScope.Uri

/-- A hexadecimal digit, in capitals. -/
def upperDigit (n : Nat) : Char :=
  Char.ofNat (if n < 10 then 48 + n else 55 + n)

def encodeByte (b : UInt8) : List Char :=
  ['%', upperDigit (b.toNat / 16), upperDigit (b.toNat % 16)]

/-- A text in which certain characters are encoded. -/
def encode (set : Char → Bool) (cs : List Char) : List Char :=
  cs.flatMap fun c =>
    if set c then (String.utf8EncodeChar c).flatMap encodeByte else [c]

/-- Control characters and all beyond ASCII, which are encoded everywhere. -/
def isHidden (c : Char) : Bool :=
  c.toNat < 32 || 126 < c.toNat

/-- A character that a host must not have. -/
def isBarred (c : Char) : Bool :=
  [' ', '#', '/', ':', '<', '>', '?', '@', '[', '\\', ']', '^', '|'].contains c

def inFragment (c : Char) : Bool :=
  isHidden c || [' ', '"', '<', '>', '\x60'].contains c

def inQuery (c : Char) : Bool :=
  isHidden c || [' ', '"', '#', '<', '>'].contains c

/-- The characters that are encoded in a query of a scheme with rules of its
own. -/
def inSpecialQuery (c : Char) : Bool :=
  inQuery c || c == '\''

def inPath (c : Char) : Bool :=
  inFragment c || ['#', '?', '\x7b', '\x7d'].contains c

/-- The characters that are encoded in a user's name and password. -/
def inUserInfo (c : Char) : Bool :=
  inPath c || ['/', ':', ';', '=', '@', '[', '\\', ']', '^', '|'].contains c

def digitValue? (c : Char) : Option Nat :=
  if c.isDigit then some (c.toNat - 48)
  else if 'a' ≤ c.toLower && c.toLower ≤ 'f' then some (c.toLower.toNat - 87)
  else none

/-- The bytes of a text, of which some may be encoded. -/
def decode : List Char → List UInt8
  | '%' :: a :: b :: rest =>
    match digitValue? a, digitValue? b with
    | some high, some low => UInt8.ofNat (16 * high + low) :: decode rest
    | _, _ => String.utf8EncodeChar '%' ++ decode (a :: b :: rest)
  | c :: rest => String.utf8EncodeChar c ++ decode rest
  | [] => []

end SchemaScope.Uri

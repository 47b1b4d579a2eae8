/-!
Widths in UTF-16: a character takes one unit, or two when its code point needs a
surrogate pair.
-/

namespace SchemaScope.Text

/-- The number of UTF-16 units of a character. -/
def unitWidth (c : Char) : Nat :=
  if c.toNat < 65536 then 1 else 2

def units (cs : List Char) : Nat :=
  cs.foldr (fun c count => unitWidth c + count) 0

/-- The shortest beginning of a text that has at least the given number of
units, or the whole text if it has fewer. A count that falls inside a surrogate
pair takes the whole character. -/
def takeUnits : Nat → List Char → List Char
  | 0, _ => []
  | _ + 1, [] => []
  | n + 1, c :: rest => c :: takeUnits (n + 1 - unitWidth c) rest

end SchemaScope.Text

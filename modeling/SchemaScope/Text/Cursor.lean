import SchemaScope.Text.Alphanumeric
import SchemaScope.Text.Lines
import SchemaScope.Text.Utf16

/-!
The name that is being typed at a place in a text.
-/

namespace SchemaScope.Text

/-- A place in a text: a line, and the number of UTF-16 units before the place
in that line, both from zero. -/
structure Position where
  line : Nat
  character : Nat
  deriving DecidableEq, Repr

/-- A character of a dotted name. -/
def isIdentifierChar (c : Char) : Bool :=
  isAlphanumeric c || c == '_' || c == '.'

/-- The characters at the end of a text that all have a property. -/
def takeEndWhile (p : Char → Bool) (cs : List Char) : List Char :=
  (cs.reverse.takeWhile p).reverse

/-- The line up to a position. A line that is not there is empty. -/
def lineBefore (text : String) (position : Position) : List Char :=
  takeUnits position.character (((lines text.toList)[position.line]?).getD [])

/-- The dotted name that ends at a position. -/
def identifierBefore (text : String) (position : Position) : String :=
  String.ofList (takeEndWhile isIdentifierChar (lineBefore text position))

end SchemaScope.Text

/-!
The lines of a text. A line ends with a line feed, or with a carriage return and
a line feed; the ending is not part of the line. A carriage return elsewhere is
an ordinary character, and the end of the text ends a line only if that line
holds a character.
-/

namespace SchemaScope.Text

/-- The lines of a text, without their endings. -/
def lines : List Char → List (List Char)
  | [] => []
  | '\r' :: '\n' :: rest => [] :: lines rest
  | '\n' :: rest => [] :: lines rest
  | c :: rest =>
    match lines rest with
    | [] => [[c]]
    | line :: more => (c :: line) :: more

end SchemaScope.Text

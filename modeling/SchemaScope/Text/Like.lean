/-!
Patterns of the SQL operator `LIKE`: `%` stands for any run of characters, `_`
for any one character, and letters of the ASCII alphabet match in either case.
-/

namespace SchemaScope.Text

def like : (pattern text : List Char) → Bool
  | [], [] => true
  | [], _ :: _ => false
  | '%' :: pattern, [] => like pattern []
  | '%' :: pattern, c :: text =>
    like pattern (c :: text) || like ('%' :: pattern) text
  | '_' :: pattern, _ :: text => like pattern text
  | p :: pattern, c :: text => p.toLower == c.toLower && like pattern text
  | _ :: _, [] => false
termination_by pattern text => pattern.length + text.length

/-- Two texts are equal up to the case of ASCII letters. -/
def sameIgnoringCase (a b : String) : Bool :=
  a.toList.map Char.toLower == b.toList.map Char.toLower

end SchemaScope.Text

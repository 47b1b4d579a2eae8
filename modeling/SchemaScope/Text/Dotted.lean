/-!
Names joined by dots. A dotted name is read from its end: what follows the last
dot is the part, and all before it the qualifier, which may itself hold dots.
-/

namespace SchemaScope.Text

/-- What stands before and after the last dot. -/
def splitLastDot : List Char → Option (List Char × List Char)
  | [] => none
  | c :: rest =>
    match splitLastDot rest with
    | some (before, after) => some (c :: before, after)
    | none => if c = '.' then some ([], rest) else none

/-- The qualifier and the part of a dotted name; `none` if it has no dot. -/
def splitQualifier (s : String) : Option (String × String) :=
  (splitLastDot s.toList).map fun (before, after) =>
    (String.ofList before, String.ofList after)

def beginsWith (s start : String) : Bool :=
  start.toList.isPrefixOf s.toList

end SchemaScope.Text

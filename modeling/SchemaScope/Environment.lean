/-!
Environment variables. The environment is a list of lines, a variable and its
value joined by an equals sign, and a name is compared with the beginning of
each line. So a name that holds an equals sign itself reaches into a value.
-/

namespace SchemaScope

/-- The variables that are set, with their values. -/
structure Environment where
  bindings : List (String × String)
  deriving Repr

namespace Environment

/-- A name that can be asked for: it is not empty and holds no NUL. -/
def isName (name : String) : Bool :=
  !name.isEmpty && !name.toList.contains '\x00'

def line (name value : String) : List Char :=
  name.toList ++ '=' :: value.toList

/-- What follows a name and an equals sign at the beginning of a line. -/
def valueIn? (name : String) (line : List Char) : Option String :=
  let start := name.toList ++ ['=']
  if start.isPrefixOf line then some (String.ofList (line.drop start.length))
  else none

def get? (env : Environment) (name : String) : Option String :=
  if isName name then
    env.bindings.findSome? fun (v, value) => valueIn? name (line v value)
  else none

end Environment

end SchemaScope

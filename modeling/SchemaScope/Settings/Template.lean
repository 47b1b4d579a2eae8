import SchemaScope.Environment
import SchemaScope.Text.Alphanumeric

/-!
Texts with references to environment variables. A reference is a dollar sign
followed by a name: in braces any text without a closing brace, otherwise the
longest run of letters, digits and underscores. A dollar sign that begins no
reference stands for itself. A text whose last brace is not closed is read as if
it were closed at the end. Values are inserted as they are and not read again.
-/

namespace SchemaScope.Settings

/-- A character of a name without braces. -/
def isNameChar (c : Char) : Bool :=
  Text.isAlphanumeric c || c == '_'

/-- A part of a template. -/
inductive Segment where
  | char (c : Char)
  | braced (name : List Char)
  | bare (name : List Char)
  | dollar
  deriving DecidableEq, Repr

namespace Segment

def render : Segment → List Char
  | char c => [c]
  | braced name => '$' :: '\x7b' :: name ++ ['\x7d']
  | bare name => '$' :: name
  | dollar => ['$']

/-- The variable that a part refers to. -/
def reference? : Segment → Option String
  | braced name | bare name => some (String.ofList name)
  | char _ | dollar => none

/-- What a part stands for, or the name of the variable that is not set. -/
def value (env : Environment) : Segment → Except String (List Char)
  | char c => .ok [c]
  | dollar => .ok ['$']
  | braced name | bare name =>
    match env.get? (String.ofList name) with
    | some text => .ok text.toList
    | none => .error (String.ofList name)

end Segment

def segments : List Char → List Segment
  | [] => []
  | '$' :: '\x7b' :: rest =>
    .braced (rest.takeWhile (· ≠ '\x7d')) ::
      segments ((rest.dropWhile (· ≠ '\x7d')).drop 1)
  | '$' :: rest =>
    if (rest.takeWhile isNameChar).isEmpty then .dollar :: segments rest
    else
      .bare (rest.takeWhile isNameChar) :: segments (rest.dropWhile isNameChar)
  | c :: rest => .char c :: segments rest
termination_by cs => cs.length
decreasing_by
  · have := (List.dropWhile_sublist (l := rest) (· ≠ '\x7d')).length_le
    simp only [List.length_drop, List.length_cons]
    omega
  · simp
  · have := (List.dropWhile_sublist (l := rest) isNameChar).length_le
    simp only [List.length_cons]
    omega
  · simp

/-- What a list of parts stands for: their values one after the other, or the
first variable from the left that is not set. -/
def evaluate (env : Environment) (parts : List Segment) :
    Except String (List Char) :=
  (parts.mapM (Segment.value env)).map List.flatten

/-- A text with its references replaced, or the first variable from the left
that is not set. -/
def expand (env : Environment) (text : String) : Except String String :=
  (evaluate env (segments text.toList)).map String.ofList

end SchemaScope.Settings

import SchemaScope.Text.Casing
import SchemaScope.Text.LowerCaseTable

/-!
Lower case of a text. A character is lowered by itself, with two exceptions: the
dotted capital I becomes two characters, and a capital sigma becomes the final
form at the end of a word and the ordinary form elsewhere.
-/

namespace SchemaScope.Text

/-- The small letters of a character other than the capital sigma. -/
def lowerChar (c : Char) : List Char :=
  if c.toNat < 128 then [c.toLower]
  else if c == 'İ' then ['i', '\u0307']
  else match lowerCaseRuns.find? (·.contains c.toNat) with
    | some run => [Char.ofNat (run.counterpart c.toNat)]
    | none => [c]

/-- Past what does not interrupt a word, the next character is a cased
letter. -/
def meetsCased (cs : List Char) : Bool :=
  match cs.dropWhile isCaseIgnorable with
  | c :: _ => isCased c
  | [] => false

/-- The small letters of the characters that follow `before`, which is held in
reverse. A sigma is final when a cased letter comes before it and none after
it. -/
def lowerFrom (before : List Char) : List Char → List Char
  | [] => []
  | 'Σ' :: rest =>
    (if meetsCased before && !meetsCased rest then 'ς' else 'σ') ::
      lowerFrom ('Σ' :: before) rest
  | c :: rest => lowerChar c ++ lowerFrom (c :: before) rest

def lowerCase (s : String) : String :=
  String.ofList (lowerFrom [] s.toList)

end SchemaScope.Text

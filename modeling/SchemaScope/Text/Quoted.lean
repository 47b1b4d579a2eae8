import SchemaScope.Text.EscapeRanges

/-!
Quoted text, as messages show it: between double quotes, with a backslash before
quotes and backslashes, short names for the common controls, and the number of
every other character that has no visible form of its own.
-/

namespace SchemaScope.Text

/-- A character as it stands between quotes. -/
def quoteChar (c : Char) : List Char :=
  if c == '\x00' then ['\\', '0']
  else if c == '\t' then ['\\', 't']
  else if c == '\r' then ['\\', 'r']
  else if c == '\n' then ['\\', 'n']
  else if c == '"' || c == '\\' then ['\\', c]
  else if needsEscape c then
    ['\\', 'u', '\x7b'] ++ Nat.toDigits 16 c.toNat ++ ['\x7d']
  else [c]

def quoted (s : String) : String :=
  String.ofList ('"' :: s.toList.flatMap quoteChar ++ ['"'])

end SchemaScope.Text

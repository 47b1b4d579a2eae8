import SchemaScope.Text.Canonical
import SchemaScope.Text.LowerCase
import SchemaScope.Uri.Name.FoldingTable

/-!
Names are looked up in one form, whatever form they are written in: capitals as
small letters, characters of another face, width or place as the ordinary ones,
and all in canonical form.
-/

namespace SchemaScope.Uri.Name

open Text

/-- The text that a character stands for. -/
def foldChar (c : Char) : List Char :=
  if c.toNat < 128 then [c.toLower]
  else if silentRanges.contains c then []
  else
    match foldingRuns.find? (·.contains c.toNat),
      itemFrom? foldingTexts c.toNat with
    | some run, _ => [Char.ofNat (run.counterpart c.toNat)]
    | none, some text => text.toList
    | none, none => lowerChar c

theorem foldChar_of_lt {c : Char} (h : c.toNat < 128) :
    foldChar c = [c.toLower] := by
  simp [foldChar, h]

/-- The form in which a name is looked up. -/
def fold (name : List Char) : List Char :=
  canonical (name.flatMap foldChar)

end SchemaScope.Uri.Name

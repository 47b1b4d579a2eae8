import SchemaScope.Uri.Address
import SchemaScope.Uri.Name.Direction
import SchemaScope.Uri.Name.Folding
import SchemaScope.Uri.Punycode

/-!
Names of hosts, which are sequences of labels between points. A label may have
letters of all scripts, which are written in ASCII alone when the name is looked
up.
-/

namespace SchemaScope.Uri.Name

/-- What a label in ASCII begins with that stands for one with other
characters. -/
def mark : List Char := ['x', 'n', '-', '-']

/-- The number of characters that a label with other characters than ASCII has
at most. -/
def maxLength : Nat := 1000

/-- The number of characters behind the mark of a label in ASCII at most. -/
def maxEncodedLength : Nat := 2000

/-- A label with the characters that it stands for. A label in ASCII must not
stand for one that could have been written as it is, nor for one that is not in
the form that is looked up. -/
def shown? (label : List Char) : Option (List Char) :=
  if mark.isPrefixOf label then do
    let encoded := label.drop mark.length
    if maxEncodedLength < encoded.length then none
    let shown ← Punycode.decode? encoded
    if shown.all (·.toNat < 128) || Name.fold shown ≠ shown then none
    else some shown
  else some label

def asciiLabel (label : List Char) : List Char :=
  if label.all (·.toNat < 128) then label else mark ++ Punycode.encode label

/-- A label is no longer than it may be, unless it is in ASCII anyway. -/
def fits (label : List Char) : Bool :=
  label.all (·.toNat < 128) || label.length ≤ maxLength

/-- The labels of a name, in the form in which it is looked up. -/
def labels? (name : List Char) : Option (List (List Char)) := do
  let labels ← (splitAt (· == '.') (fold name)).mapM shown?
  let directions ← labels.mapM (·.mapM direction?)
  let isProper (label : List Char) : Bool :=
    fits label && !label.head?.any isMark && joinsWell [] label
  if labels.all isProper &&
    (!directions.any runsBack || directions.all isStraight) then
    some labels
  else none

/-- A name in ASCII alone. -/
def ascii? (name : List Char) : Option (List Char) :=
  (labels? name).map fun labels => ['.'].intercalate (labels.map asciiLabel)

end SchemaScope.Uri.Name

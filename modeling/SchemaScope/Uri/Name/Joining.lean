import SchemaScope.Text.Canonical.CombiningClass
import SchemaScope.Uri.Name.DirectionTable
import SchemaScope.Uri.Name.JoiningTable

/-!
The two characters that are not seen themselves but decide whether their
neighbours are joined. A name has them only where they make a difference: behind
a mark that takes the vowel from a letter, and, in case of the one that
separates, between letters that would be joined.
-/

namespace SchemaScope.Uri.Name

open Text

/-- The character that joins its neighbours. -/
def joiner : Char := '\u200d'

/-- The character that separates its neighbours. -/
def separator : Char := '\u200c'

/-- A character that joins its neighbours or separates them. -/
def isJoinControl (c : Char) : Bool :=
  c == joiner || c == separator

/-- Letters are joined across this character. -/
def isTransparent (c : Char) : Bool :=
  nonspacingRanges.contains c || transparentRanges.contains c

/-- The letter is joined to the one after it. -/
def joinsFront (c : Char) : Bool :=
  dualJoiningRanges.contains c || frontJoiningRanges.contains c

/-- The letter is joined to the one before it. -/
def joinsBack (c : Char) : Bool :=
  dualJoiningRanges.contains c || backJoiningRanges.contains c

/-- The nearest character that letters are not joined across has a property. -/
def meets (p : Char → Bool) (cs : List Char) : Bool :=
  (cs.dropWhile isTransparent).head?.any p

/-- The character may stand between others, of which those before it are given
in reverse. -/
def mayStand (before : List Char) (c : Char) (after : List Char) : Bool :=
  !isJoinControl c || before.head?.any (combiningClass · == viramaClass)
    || (c == separator && meets joinsFront before && meets joinsBack after)

/-- Every character that joins or separates others makes a difference. The
characters before those of the label are given in reverse. -/
def joinsWell (before : List Char) : List Char → Bool
  | [] => true
  | c :: rest => mayStand before c rest && joinsWell (c :: before) rest

end SchemaScope.Uri.Name

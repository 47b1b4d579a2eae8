import SchemaScope.Uri.Name.Joining
import SchemaScope.Uri.Percent

/-!
The directions in which the characters of a name run. As soon as something runs
from right to left in a name, each of its labels has to run in one direction,
which its first and its last character show.
-/

namespace SchemaScope.Uri.Name

open Text

/-- The part that a character plays in the direction of a label. -/
inductive Direction where
  | forward
  | backward
  /-- A digit that runs from left to right in either direction. -/
  | number
  /-- A digit that occurs in Arabic text. -/
  | arabicNumber
  /-- A character without a direction of its own. -/
  | neutral
  /-- A mark, which runs with the character before it. -/
  | mark
  deriving DecidableEq, Repr

/-- The direction of a character that a label may have. -/
def direction? (c : Char) : Option Direction :=
  if c.toNat < 128 then
    if isBarred c || isHidden c || c.isUpper || c == '%' || c == '.' then none
    else if c.isAlpha then some .forward
    else if c.isDigit then some .number
    else some .neutral
  else if forwardRanges.contains c || spacingRanges.contains c then
    some .forward
  else if nonspacingRanges.contains c then some .mark
  else if neutralRanges.contains c || isJoinControl c then some .neutral
  else if backwardRanges.contains c then some .backward
  else if numberRanges.contains c then some .number
  else if arabicNumberRanges.contains c then some .arabicNumber
  else none

/-- A mark, which does not begin a label. -/
def isMark (c : Char) : Bool :=
  nonspacingRanges.contains c || spacingRanges.contains c

/-- Some character runs from right to left. -/
def runsBack (directions : List Direction) : Bool :=
  directions.contains .backward || directions.contains .arabicNumber

/-- A label runs in one direction. -/
def isStraight (directions : List Direction) : Bool :=
  let last? := (directions.reverse.dropWhile (· = .mark)).head?
  match directions with
  | [] => true
  | .forward :: _ =>
    !runsBack directions && last?.any fun d => d = .forward || d = .number
  | .backward :: _ =>
    !directions.contains .forward
      && !(directions.contains .number && directions.contains .arabicNumber)
      && last?.any fun d => d = .backward || d = .number || d = .arabicNumber
  | _ => false

end SchemaScope.Uri.Name

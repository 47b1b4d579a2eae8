import SchemaScope.Uri.Percent

/-!
Paths. A path is read segment by segment: `.` stays where it is and `..` goes
up, whether their points are encoded or not. The drive of a disk, a letter and a
colon, is never left.
-/

namespace SchemaScope.Uri

/-- A tab or the end of a line, which is no part of a URI wherever it stands. -/
def isBreak (c : Char) : Bool :=
  c == '\t' || c == '\n' || c == '\r'

/-- A text without the breaks in it. -/
def whole (cs : List Char) : List Char :=
  cs.filter (!isBreak ·)

/-- A letter and a colon, or a bar in its place. -/
def isDrive : List Char → Bool
  | [letter, mark] => letter.isAlpha && (mark == ':' || mark == '|')
  | _ => false

/-- A segment that is not left by going up: a drive, or one that goes on with a
backslash behind a drive. -/
def isKept (segment : List Char) : Bool :=
  isDrive (segment.takeWhile (· ≠ '\\'))

def isUp (segment : List Char) : Bool :=
  ["..", ".%2e", "%2e.", "%2e%2e"].contains
    (String.ofList (segment.map Char.toLower))

/-- A segment that stays. -/
def isHere (segment : List Char) : Bool :=
  [".", "%2e"].contains (String.ofList (segment.map Char.toLower))

/-- The drive at the beginning of a segment, and what follows it behind a
break. -/
def cutDrive? : List Char → Option (List Char × List Char)
  | letter :: ':' :: mark :: rest =>
    let more := whole rest
    if letter.isAlpha && isBreak mark && !more.isEmpty then
      some ([letter, ':'], more)
    else none
  | _ => none

/-- The segments that have been read, in reverse. -/
structure PathProgress where
  above : List (List Char) := []
  /-- The first segment is the drive of a disk, which has no host. -/
  onDrive : Bool := false

/-- Read a segment without breaks. Only the first segment of a file is its
drive. -/
def PathProgress.enterWhole (isFile : Bool) (p : PathProgress)
    (segment : List Char) : PathProgress :=
  if isUp segment then
    match p.above with
    | last :: rest => if isKept last then p else { p with above := rest }
    | [] => p
  else if isHere segment then p
  else if isFile && p.above.isEmpty && isDrive segment then
    ⟨[segment.take 1 ++ [':']], true⟩
  else { p with above := segment :: p.above }

/-- Read a segment. Where a break follows the drive of a file, the drive is a
segment of its own, and the rest is taken as it is. -/
def PathProgress.enter (isFile : Bool) (p : PathProgress)
    (segment : List Char) : PathProgress :=
  match if isFile && p.above.isEmpty then cutDrive? segment else none with
  | some (drive, rest) => { p with above := [encode inPath rest, drive] }
  | none => p.enterWhole isFile (encode inPath (whole segment))

/-- Read all segments. The path ends with a slash if its last segment goes up or
stays. -/
def PathProgress.enterAll (isFile : Bool) (segments : List (List Char)) :
    PathProgress :=
  let p := segments.foldl (enter isFile) {}
  match segments.getLast?.map whole with
  | some last =>
    if isUp last || isHere last then { p with above := [] :: p.above } else p
  | none => p

/-- The text of a path. Slashes at the beginning of the path of a file count
once. -/
def PathProgress.text (isFile : Bool) (p : PathProgress) : List Char :=
  let path := ['/'].intercalate p.above.reverse
  '/' :: if isFile then path.dropWhile (· == '/') else path

end SchemaScope.Uri

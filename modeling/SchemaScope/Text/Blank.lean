import SchemaScope.Text.CharRanges

/-!
Blank characters: those with the Unicode property `White_Space`.
-/

namespace SchemaScope.Text

def blankRanges : CharRanges :=
  [(9, 13), (32, 32), (133, 133), (160, 160), (5760, 5760), (8192, 8202),
   (8232, 8233), (8239, 8239), (8287, 8287), (12288, 12288)]

def isBlank (c : Char) : Bool :=
  blankRanges.contains c

def isBlankText (s : String) : Bool :=
  s.toList.all isBlank

end SchemaScope.Text

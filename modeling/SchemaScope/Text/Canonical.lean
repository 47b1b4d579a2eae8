import SchemaScope.Text.Canonical.CombiningClass
import SchemaScope.Text.Canonical.Table

/-!
The canonical form of a text (Unicode normalization form C). Texts that are the
same to a reader may be written with different characters: an accented letter
may be one character or a letter and a mark, and marks that do not touch each
other may come in any order. In the canonical form characters are taken apart,
the marks are put in order, and what can be composed is composed.
-/

namespace SchemaScope.Text

/-! Syllables of Hangul, which are composed by a rule instead of a table. -/

/-- The first leading consonant. -/
def leadBase : Nat := 0x1100

/-- The first vowel. -/
def vowelBase : Nat := 0x1161

/-- The place in front of the first trailing consonant, which stands for
none. -/
def trailBase : Nat := 0x11A7

/-- The first syllable. -/
def syllableBase : Nat := 0xAC00

def leadCount : Nat := 19

def vowelCount : Nat := 21

/-- The number of trailing consonants, including none. -/
def trailCount : Nat := 28

def syllableCount : Nat := leadCount * vowelCount * trailCount

/-- The letters of a syllable. -/
def syllableLetters? (c : Char) : Option (List Char) :=
  let place := c.toNat - syllableBase
  if syllableBase ≤ c.toNat && place < syllableCount then
    let lead := Char.ofNat (leadBase + place / (vowelCount * trailCount))
    let vowel := Char.ofNat (vowelBase + place / trailCount % vowelCount)
    if place % trailCount == 0 then some [lead, vowel]
    else some [lead, vowel, Char.ofNat (trailBase + place % trailCount)]
  else none

/-- The syllable of two letters, or of a syllable and a trailing consonant. -/
def syllable? (a b : Char) : Option Char :=
  let lead := a.toNat - leadBase
  let vowel := b.toNat - vowelBase
  let place := a.toNat - syllableBase
  let trail := b.toNat - trailBase
  if leadBase ≤ a.toNat && lead < leadCount
      && vowelBase ≤ b.toNat && vowel < vowelCount then
    some (Char.ofNat (syllableBase + (lead * vowelCount + vowel) * trailCount))
  else if syllableBase ≤ a.toNat && place < syllableCount
      && place % trailCount == 0
      && trailBase < b.toNat && trail < trailCount then
    some (Char.ofNat (a.toNat + trail))
  else none

/-- The two characters of which one is composed. -/
def composedOf? (code : Nat) : Option (Nat × Nat) :=
  compositions.findSome? fun (second, firsts) =>
    (firsts.find? (·.2 == code)).map fun (first, _) => (first, second)

/-- The item that a list from `first` on has for a number. -/
def itemFrom? {α : Type} (lists : List (Nat × List α)) (n : Nat) : Option α :=
  lists.findSome? fun (first, items) =>
    if first ≤ n then items[n - first]? else none

/-- The least code point that is written as others. -/
def firstComposed : Nat := 0xC0

/-- The characters as which one is written, one step apart. -/
def parts (c : Char) : List Char :=
  if c.toNat < firstComposed then [c]
  else
    let pair :=
      (composedOf? c.toNat <|> splits.lookup c.toNat).map fun (a, b) =>
        [Char.ofNat a, Char.ofNat b]
    let other :=
      (itemFrom? duplicates c.toNat).map fun code => [Char.ofNat code]
    (syllableLetters? c <|> pair <|> other).getD [c]

theorem parts_of_lt {c : Char} (h : c.toNat < firstComposed) :
    parts c = [c] := by
  simp [parts, h]

/-- A text with all characters taken apart. No character takes more than three
steps. -/
def decompose (cs : List Char) : List Char :=
  ((cs.flatMap parts).flatMap parts).flatMap parts

/-- Put a mark in front of others. It goes behind those that belong before
it. -/
def placeMark (c : Char) : List Char → List Char
  | [] => [c]
  | d :: rest =>
    if 0 < combiningClass d && combiningClass d < combiningClass c then
      d :: placeMark c rest
    else c :: d :: rest

/-- A text with its marks in order. Marks of one class keep their order. -/
def orderMarks (cs : List Char) : List Char :=
  cs.foldr placeMark []

/-- The character that two others are composed to, the second of which is a mark
or a letter that attaches to others as marks do. -/
def compose? (a b : Char) : Option Char :=
  if b.toNat < firstMark then none
  else
    syllable? a b <|>
      ((compositions.lookup b.toNat).bind (·.lookup a.toNat)).map Char.ofNat

/-- A text as far as it has been composed. -/
structure Composition where
  /-- What cannot change any more, in reverse. -/
  before : List Char := []
  /-- The latest character that is no mark. -/
  base : Option Char := none
  /-- The marks that follow it, in reverse. -/
  marks : List Char := []

namespace Composition

/-- The character cannot reach the base because of a mark between them. -/
def isBlocked (p : Composition) (c : Char) : Bool :=
  p.marks.head?.any fun mark => combiningClass c ≤ combiningClass mark

/-- What has been composed, in reverse. -/
def reversed (p : Composition) : List Char :=
  p.marks ++ p.base.toList ++ p.before

/-- Take in the next character: it is composed with the base where it can reach
it. -/
def take (p : Composition) (c : Char) : Composition :=
  match if p.isBlocked c then none else p.base.bind (compose? · c) with
  | some composed => { p with base := some composed }
  | none =>
    if combiningClass c == 0 then { before := p.reversed, base := some c }
    else { p with marks := c :: p.marks }

end Composition

def canonical (cs : List Char) : List Char :=
  ((orderMarks (decompose cs)).foldl Composition.take {}).reversed.reverse

end SchemaScope.Text

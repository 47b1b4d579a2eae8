/-!
Punycode: a label with characters beyond ASCII, written in ASCII alone. The
ASCII characters come first; the others follow in ascending order, each as the
distance from the one before it, counted in places where a character could be
put in. Distances are numbers of variable length whose digits adapt to the size
of those already written.
-/

namespace SchemaScope.Uri.Punycode

/-- A digit: letters up to 25, and then figures. -/
def digit (n : Nat) : Char :=
  Char.ofNat (if n < 26 then 97 + n else 22 + n)

/-- The value from which on a digit is not the last one of its number. -/
def threshold (place bias : Nat) : Nat :=
  min 26 (max 1 (place - bias))

theorem threshold_pos (place bias : Nat) : 0 < threshold place bias := by
  unfold threshold
  omega

def digits (bias place n : Nat) : List Char :=
  let t := threshold place bias
  if n < t then [digit n]
  else
    digit (t + (n - t) % (36 - t)) ::
      digits bias (place + 36) ((n - t) / (36 - t))
termination_by n
decreasing_by
  have := threshold_pos place bias
  exact Nat.lt_of_le_of_lt (Nat.div_le_self _ _) (by omega)

/-- The bias that a large distance leaves behind. -/
def settle (distance : Nat) : Nat :=
  if 455 < distance then 36 + settle (distance / 35)
  else 36 * distance / (distance + 38)

/-- The bias after a distance has been written. -/
def adapt (distance written : Nat) (isFirst : Bool) : Nat :=
  let distance := if isFirst then distance / 700 else distance / 2
  settle (distance + distance / written)

/-- A label as far as it has been written. -/
structure Progress where
  text : List Char
  /-- The characters that have been written. -/
  written : Nat
  distance : Nat := 0
  bias : Nat := 72
  /-- No character beyond ASCII has been written. -/
  isFirst : Bool := true
  /-- The number of the least character that may come next. -/
  next : Nat := 128

/-- Pass a character of the label, or write it if it is the one with a
number. -/
def pass (number : Nat) (p : Progress) (c : Char) : Progress :=
  if c.toNat < number then { p with distance := p.distance + 1 }
  else if c.toNat = number then
    { p with
      text := p.text ++ digits p.bias 36 p.distance
      written := p.written + 1
      distance := 0
      bias := adapt p.distance (p.written + 1) p.isFirst
      isFirst := false }
  else p

/-- Write a character wherever the label has it. -/
def write (label : List Char) (p : Progress) (number : Nat) : Progress :=
  let distance := p.distance + (number - p.next) * (p.written + 1)
  let p := label.foldl (pass number) { p with distance }
  { p with distance := p.distance + 1, next := number + 1 }

/-- A label written in ASCII alone. -/
def encode (label : List Char) : List Char :=
  let basic := label.filter (·.toNat < 128)
  let numbers := ((label.map Char.toNat).filter (128 ≤ ·)).mergeSort.eraseDups
  let text := if basic.isEmpty then [] else basic ++ ['-']
  (numbers.foldl (write label) { text, written := basic.length }).text

def digitValue? (c : Char) : Option Nat :=
  if c.isLower then some (c.toNat - 97)
  else if c.isDigit then some (c.toNat - 22)
  else none

def charOf? (code : Nat) : Option Char :=
  if code.isValidChar then some (Char.ofNat code) else none

/-- The bound of the numbers that are read. -/
def bound : Nat := Nat.pow 2 32

/-- A label as far as it has been read. -/
structure Reading where
  text : List Char
  /-- The number of the least character that may come next. -/
  next : Nat := 128
  /-- The least place at which that character may be put in. -/
  place : Nat := 0
  bias : Nat := 72
  /-- No character beyond ASCII has been read. -/
  isFirst : Bool := true
  /-- The distance, as far as its digits have been read. -/
  distance : Nat := 0
  /-- The place of the next digit in the distance. -/
  digitPlace : Nat := 36
  /-- The weight of the next digit. -/
  weight : Nat := 1

/-- Put in the character that a distance leads to. -/
def Reading.putIn (r : Reading) (distance : Nat) : Option Reading := do
  let written := r.text.length + 1
  let reached := r.place + distance
  let number := r.next + reached / written
  let place := reached % written
  let c ← charOf? number
  return { text := r.text.insertIdx place c, next := number, place := place + 1
           bias := adapt distance written r.isFirst, isFirst := false }

/-- Read a digit of a distance. -/
def Reading.take (r : Reading) (c : Char) : Option Reading := do
  let digit ← digitValue? c
  let t := threshold r.digitPlace r.bias
  let distance := r.distance + digit * r.weight
  let weight := r.weight * (36 - t)
  if digit < t then r.putIn distance
  else if bound ≤ weight then none
  else return { r with distance, weight, digitPlace := r.digitPlace + 36 }

/-- The label that is written in ASCII alone, with small letters. A dash must
not stand in front of the digits if there is nothing in front of it. -/
def decode? (encoded : List Char) : Option (List Char) := do
  let digits := (encoded.reverse.takeWhile (· ≠ '-')).reverse
  let basic := encoded.take (encoded.length - digits.length)
  if basic == ['-'] then none
  let r ← digits.foldlM Reading.take { text := basic.dropLast }
  if r.weight = 1 then some r.text else none

end SchemaScope.Uri.Punycode

import SchemaScope.Json.Value

/-!
The values of JSON numbers. A whole number within 64 bits is exact. Of any other
number as many digits are kept as 64 bits hold, which are then scaled by a power
of ten; the digits, the power and the result are each rounded to binary, so that
a value may differ in its last bit from the nearest one.
-/

namespace SchemaScope.Json

def digitsValue (cs : List Char) : Nat :=
  cs.foldl (fun n c => 10 * n + (c.toNat - 48)) 0

/-- The digits of a number as far as they are kept: `digits · 10 ^ exponent`. -/
structure Significand where
  digits : Nat := 0
  exponent : Int := 0
  /-- A digit has been left out, and so will be all that follow. -/
  isFull : Bool := false

namespace Significand

/-- A further digit is kept. -/
def hasRoom (s : Significand) (digit : Nat) : Bool :=
  !s.isFull && 10 * s.digits + digit < Nat.pow 2 64

/-- Take a digit in front of the point. One that is left out still has its
place. -/
def takeWhole (s : Significand) (c : Char) : Significand :=
  let digit := c.toNat - 48
  if s.hasRoom digit then { s with digits := 10 * s.digits + digit }
  else { s with exponent := s.exponent + 1, isFull := true }

/-- Take a digit behind the point. -/
def takePlace (s : Significand) (c : Char) : Significand :=
  let digit := c.toNat - 48
  if s.hasRoom digit then
    { s with digits := 10 * s.digits + digit, exponent := s.exponent - 1 }
  else { s with isFull := true }

/-- The significand of a number, given its digits in front of the point and
behind it. -/
def ofDigits (whole places : List Char) : Significand :=
  places.foldl takePlace { whole.foldl takeWhole {} with isFull := false }

end Significand

/-- The power of ten by which a number is scaled at most in one step. -/
def maxPower : Nat := 308

/-- A number scaled by a power of ten, in steps where the power is very small. A
number that is too large has no value. -/
def scaled? (f : Decimal.Binary64) (exponent : Int) : Option Decimal.Binary64 :=
  let power (n : Nat) := Decimal.Binary64.ofDecimal false 1 n
  if f.isZero then some f
  else if maxPower < exponent then none
  else if 0 ≤ exponent then
    match f.times (power exponent.toNat) with
    | .infinite _ => none
    | f => some f
  else if -maxPower ≤ exponent then some (f.over (power (-exponent).toNat))
  else scaled? (f.over (power maxPower)) (exponent + maxPower)
termination_by (-exponent).toNat
decreasing_by
  simp only [maxPower] at *
  omega

/-- The value of a number from its parts as written. -/
def numberValue? (negative : Bool) (whole : List Char)
    (places : Option (List Char)) (exponent : Option Int) : Option Json :=
  let integer : Int :=
    if negative then -digitsValue whole else digitsValue whole
  if places.isNone && exponent.isNone && !(negative && integer == 0)
      && -(Nat.pow 2 63 : Int) ≤ integer && integer < Nat.pow 2 64 then
    some (.integer integer)
  else
    let s := Significand.ofDigits whole (places.getD [])
    let value :=
      scaled? (.ofScaled false s.digits 1 0) (s.exponent + exponent.getD 0)
    value.map fun f => .real (if negative then f.negated else f)

end SchemaScope.Json

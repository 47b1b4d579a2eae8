/-!
Binary floating-point numbers of 64 bits: the number that a bit pattern stands
for, and the number nearest to a decimal.
-/

namespace SchemaScope.Decimal

/-- A number of the format. A finite one is `mantissa · 2 ^ exponent`, with a
sign of its own so that zero has two. -/
inductive Binary64 where
  | nan
  | infinite (negative : Bool)
  | finite (negative : Bool) (mantissa : Nat) (exponent : Int)
  deriving Repr, DecidableEq

def minExponent : Int := -1074

def maxExponent : Int := 971

/-- The number that a bit pattern stands for: a sign bit, eleven bits of
exponent, and fifty-two bits of mantissa with an implied leading one except for
the smallest exponent. -/
def Binary64.ofBits (bits : Nat) : Binary64 :=
  let negative := bits / Nat.pow 2 63 % 2 == 1
  let biased : Nat := bits / Nat.pow 2 52 % 2048
  let fraction : Nat := bits % Nat.pow 2 52
  if biased == 2047 then
    if fraction == 0 then .infinite negative else .nan
  else if biased == 0 then .finite negative fraction minExponent
  else .finite negative (Nat.pow 2 52 + fraction) (Int.ofNat biased - 1075)

/-- A fraction scaled by a power of two: `num · 2 ^ -exponent / den` as a new
fraction. -/
def scaleDown (num den : Nat) (exponent : Int) : Nat × Nat :=
  if 0 ≤ exponent then (num, den * Nat.pow 2 exponent.toNat)
  else (num * Nat.pow 2 (-exponent).toNat, den)

/-- A fraction rounded to the nearest whole number, a half to the even
neighbour. -/
def roundHalfEven (num den : Nat) : Nat :=
  let whole := num / den
  let rest := 2 * (num % den)
  if den < rest || (rest == den && whole % 2 == 1) then whole + 1 else whole

/-- The number nearest to a positive fraction. -/
def Binary64.ofFraction (negative : Bool) (num den : Nat) : Binary64 :=
  let guess : Int :=
    max (Int.ofNat num.log2 - Int.ofNat den.log2 - 53) minExponent
  let fits (exponent : Int) : Bool :=
    let (n, d) := scaleDown num den exponent
    n / d < Nat.pow 2 53
  let exponent :=
    if fits guess then guess
    else if fits (guess + 1) then guess + 1
    else guess + 2
  let (n, d) := scaleDown num den exponent
  let mantissa := roundHalfEven n d
  let (mantissa, exponent) :=
    if mantissa == Nat.pow 2 53 then (Nat.pow 2 52, exponent + 1)
    else (mantissa, exponent)
  if maxExponent < exponent then .infinite negative
  else .finite negative mantissa exponent

/-- A fraction times a power of two as a fraction. -/
def scaleUp (num den : Nat) (exponent : Int) : Nat × Nat :=
  scaleDown num den (-exponent)

/-- The number nearest to a fraction times a power of two. -/
def Binary64.ofScaled (negative : Bool) (num den : Nat) (exponent : Int) :
    Binary64 :=
  if num == 0 then .finite negative 0 minExponent
  else
    let (num, den) := scaleUp num den exponent
    .ofFraction negative num den

/-- The number nearest to the product of two finite numbers. -/
def Binary64.times : Binary64 → Binary64 → Binary64
  | .finite n a x, .finite m b y => .ofScaled (n != m) (a * b) 1 (x + y)
  | _, _ => .nan

/-- The number nearest to the quotient of two finite numbers, the second of
which is not zero. -/
def Binary64.over : Binary64 → Binary64 → Binary64
  | .finite n a x, .finite m b y => .ofScaled (n != m) a b (x - y)
  | _, _ => .nan

def Binary64.isZero : Binary64 → Bool
  | .finite _ mantissa _ => mantissa == 0
  | _ => false

def Binary64.negated : Binary64 → Binary64
  | .nan => .nan
  | .infinite negative => .infinite !negative
  | .finite negative mantissa exponent => .finite (!negative) mantissa exponent

/-- The number nearest to `digits · 10 ^ exponent`. Beyond the bounds of the
format, which are checked first, no power of ten is formed. -/
def Binary64.ofDecimal (negative : Bool) (digits : Nat) (exponent : Int) :
    Binary64 :=
  if digits == 0 || exponent + digits.log2 < -1200 then
    .finite negative 0 minExponent
  else if 400 < exponent then .infinite negative
  else if 0 ≤ exponent then
    .ofFraction negative (digits * Nat.pow 10 exponent.toNat) 1
  else .ofFraction negative digits (Nat.pow 10 (-exponent).toNat)

end SchemaScope.Decimal

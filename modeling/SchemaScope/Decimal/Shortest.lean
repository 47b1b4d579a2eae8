import SchemaScope.Decimal.Binary64

/-!
The shortest decimal that reads back as a given binary number. A decimal reads
back if it lies in the interval of reals that are rounded to the number; of the
decimals with the fewest digits the nearest is taken. A text is positional at
every size, a literal only at sizes that are easily read.
-/

namespace SchemaScope.Decimal

/-- The interval of reals that are rounded to a number, as `low · unit` and
`high · unit` around `value · unit`, where the unit is the fraction `num / den`.
The ends belong to it when `closed`. -/
structure Interval where
  low : Nat
  value : Nat
  high : Nat
  num : Nat
  den : Nat
  closed : Bool
  deriving Repr

/-- The interval of `mantissa · 2 ^ exponent`, in quarters of the last place.
Below a power of two the neighbour is only half as far away. -/
def Interval.around (mantissa : Nat) (exponent : Int) : Interval :=
  let atPower := mantissa == Nat.pow 2 52 && minExponent < exponent
  { low := 4 * mantissa - (if atPower then 1 else 2)
    value := 4 * mantissa
    high := 4 * mantissa + 2
    num := Nat.pow 2 (exponent - 2).toNat
    den := Nat.pow 2 (2 - exponent).toNat
    closed := mantissa % 2 == 0 }

/-- The decimal `digits · 10 ^ exponent`. -/
structure Scaled where
  digits : Nat
  exponent : Int
  deriving Repr, DecidableEq

/-- Which of two equally near decimals is taken. -/
inductive Tie where
  | larger
  | even
  deriving Repr, DecidableEq

/-- A bound of the interval, in units, as a fraction of `10 ^ exponent`. -/
def Interval.inPower (iv : Interval) (bound : Nat) (exponent : Int) :
    Nat × Nat :=
  if 0 ≤ exponent then (bound * iv.num, iv.den * Nat.pow 10 exponent.toNat)
  else (bound * iv.num * Nat.pow 10 (-exponent).toNat, iv.den)

def Interval.holds (iv : Interval) (d : Scaled) : Bool :=
  let (lowNum, den) := iv.inPower iv.low d.exponent
  let (highNum, _) := iv.inPower iv.high d.exponent
  let scaled := d.digits * den
  if iv.closed then lowNum ≤ scaled && scaled ≤ highNum
  else lowNum < scaled && scaled < highNum

/-- Of the two neighbours of the value among the multiples of a power of ten,
the one in the interval, and the nearer one if both are. -/
def Interval.nearest? (iv : Interval) (tie : Tie) (exponent : Int) :
    Option Scaled :=
  let (num, den) := iv.inPower iv.value exponent
  let below : Scaled := ⟨num / den, exponent⟩
  let above : Scaled := ⟨num / den + 1, exponent⟩
  let rest := 2 * (num % den)
  let belowIsTaken :=
    rest < den || (rest == den && tie == .even && below.digits % 2 == 0)
  match iv.holds below, iv.holds above with
  | true, true => some (if belowIsTaken then below else above)
  | true, false => some below
  | false, true => some above
  | false, false => none

/-- The exponent of the leading decimal digit of the value, found from an upper
bound downwards. -/
def Interval.leading (iv : Interval) : (fuel : Nat) → (upper : Int) → Int
  | 0, upper => upper
  | fuel + 1, upper =>
    let (num, den) := iv.inPower iv.value upper
    if den ≤ num then upper else iv.leading fuel (upper - 1)

/-- The shortest decimal in the interval, looked for from a count of digits
onwards. -/
def Interval.shortestFrom (iv : Interval) (tie : Tie) (leading : Int) :
    (fuel count : Nat) → Scaled
  | 0, _ => ⟨0, 0⟩
  | fuel + 1, count =>
    match iv.nearest? tie (leading - count) with
    | some d => d
    | none => iv.shortestFrom tie leading fuel (count + 1)

/-- Digits without the zeros at their end, which move into the exponent. -/
def Scaled.trimFrom : (fuel : Nat) → Scaled → Scaled
  | 0, d => d
  | fuel + 1, d =>
    if d.digits ≠ 0 && d.digits % 10 == 0 then
      trimFrom fuel ⟨d.digits / 10, d.exponent + 1⟩
    else d

/-- The shortest decimal that reads back as `mantissa · 2 ^ exponent`, without
zeros at its end. Seventeen digits always suffice. -/
def shortest (tie : Tie) (mantissa : Nat) (exponent : Int) : Scaled :=
  let iv := Interval.around mantissa exponent
  (iv.shortestFrom tie (iv.leading 640 310) 18 0).trimFrom 20

def Scaled.positional (d : Scaled) : String :=
  let digits := Nat.toDigits 10 d.digits
  if 0 ≤ d.exponent then
    String.ofList (digits ++ List.replicate d.exponent.toNat '0')
  else
    let places := (-d.exponent).toNat
    if places < digits.length then
      let (whole, fraction) := digits.splitAt (digits.length - places)
      String.ofList (whole ++ '.' :: fraction)
    else
      String.ofList
        ('0' :: '.' :: List.replicate (places - digits.length) '0' ++ digits)

/-- The number of digits in front of the point; below one it counts zeros behind
the point. -/
def Scaled.places (d : Scaled) : Int :=
  (Nat.toDigits 10 d.digits).length + d.exponent

/-- A decimal written with a signed exponent and one digit in front of the
point. -/
def Scaled.scientific (d : Scaled) : String :=
  let exponent :=
    (if 0 < d.places then "e+" else "e") ++ toString (d.places - 1)
  match Nat.toDigits 10 d.digits with
  | [] => exponent
  | [digit] => String.ofList [digit] ++ exponent
  | digit :: fraction => String.ofList (digit :: '.' :: fraction) ++ exponent

def signed (negative : Bool) (text : String) : String :=
  (if negative then "-" else "") ++ text

/-- The text of a number: its shortest decimal, positional at every size, and
names for the values that are not finite. -/
def Binary64.text : Binary64 → String
  | .nan => "NaN"
  | .infinite negative => signed negative "inf"
  | .finite negative mantissa exponent =>
    signed negative
      (if mantissa == 0 then "0"
        else (shortest .larger mantissa exponent).positional)

/-- A number as a literal: from `0.00001` up to sixteen digits positional and
with a point, beyond that with an exponent. -/
def Binary64.literal : Binary64 → String
  | .nan => "NaN"
  | .infinite negative => signed negative "inf"
  | .finite negative mantissa exponent =>
    let d := shortest .even mantissa exponent
    signed negative <|
      if mantissa == 0 then "0.0"
      else if d.places ≤ -5 || 16 < d.places then d.scientific
      else if 0 ≤ d.exponent then d.positional ++ ".0"
      else d.positional

end SchemaScope.Decimal

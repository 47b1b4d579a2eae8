/-!
Runs of code points that each stand for another one at the same distance.
-/

namespace SchemaScope.Text

/-- The code points `first, first + stride, …, last`, each of which has its
counterpart `shift` places away. -/
structure CodeRun where
  first : Nat
  last : Nat
  stride : Nat
  shift : Int
  deriving Repr, DecidableEq

def CodeRun.contains (run : CodeRun) (code : Nat) : Bool :=
  run.first ≤ code && code ≤ run.last && (code - run.first) % run.stride == 0

/-- The code point that the run assigns to one of its own. -/
def CodeRun.counterpart (run : CodeRun) (code : Nat) : Nat :=
  (code + run.shift).toNat

end SchemaScope.Text

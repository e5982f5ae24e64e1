/-!
# Exact comparison of numbers

Whole numbers and binary fractions are both points `m · 2^e`. Comparing them
never rounds: the two significands are brought to the smaller exponent first.
A value that is not a number compares with nothing.
-/
namespace Storyboard

/-- A point of the extended number line, or no point at all. -/
inductive Quantity where
  | undefined
  | below
  | above
  | exact (significand : Int) (exponent : Int)
  deriving DecidableEq, Repr

namespace Quantity

def ofInt (n : Int) : Quantity := .exact n 0

/-- The order of `a · 2^i` and `b · 2^j`. -/
def compareScaled (a i b j : Int) : Ordering :=
  let k := min i j
  compare (a * Nat.pow 2 (i - k).toNat) (b * Nat.pow 2 (j - k).toNat)

/-- The order of two points; `none` when one of them is undefined. -/
def compare? : Quantity → Quantity → Option Ordering
  | .undefined, _ => none
  | _, .undefined => none
  | .exact a i, .exact b j => some (compareScaled a i b j)
  | .below, .below => some .eq
  | .above, .above => some .eq
  | .below, _ => some .lt
  | _, .above => some .lt
  | .above, _ => some .gt
  | _, .below => some .gt

/-- An undefined point equals nothing, not even itself. -/
def equal (a b : Quantity) : Bool := a.compare? b == some .eq

def less (a b : Quantity) : Bool := a.compare? b == some .lt

end Quantity

end Storyboard

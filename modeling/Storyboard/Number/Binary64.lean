import Storyboard.Number.Quantity

/-!
# Double-precision numbers

A finite value is `± significand · 2^exponent`. Values are only built by
rounding an exact quotient to the nearest double, ties to the even significand,
so every finite value the library makes has a significand below `2^53` and an
exponent of at least `-1074`.
-/
namespace Storyboard

/-- A double-precision number, an infinity, or no number. -/
inductive Binary64 where
  /-- No number. The payload tells apart values that are all no numbers. -/
  | nan (payload : Nat)
  | infinity (negative : Bool)
  | finite (negative : Bool) (significand : Nat) (exponent : Int)
  deriving DecidableEq, Repr, Inhabited

namespace Binary64

/-- The exponent of the smallest positive value. -/
def leastExponent : Int := -1074

/-- The exponent of the largest finite values. -/
def greatestExponent : Int := 971

def zero (negative : Bool) : Binary64 := .finite negative 0 leastExponent

/-- The whole number nearest to `num / den`, ties to the even one. -/
def nearest (num den : Nat) : Nat :=
  let q := num / den
  let r := num % den
  match compare (2 * r) den with
  | .lt => q
  | .gt => q + 1
  | .eq => if q % 2 == 0 then q else q + 1

/-- The exponent `g` with `2^g ≤ num / den < 2^(g+1)`, for positive arguments. -/
def floorLog2 (num den : Nat) : Int :=
  let g : Int := (num.log2 : Int) - den.log2
  if den * Nat.pow 2 g.toNat ≤ num * Nat.pow 2 (-g).toNat then g else g - 1

/-- The double nearest to `num / den`; values beyond the largest one become infinite. -/
def ofRatio (negative : Bool) (num den : Nat) : Binary64 :=
  if num == 0 then zero negative
  else
    let e := max leastExponent (floorLog2 num den - 52)
    let m := nearest (num * Nat.pow 2 (-e).toNat) (den * Nat.pow 2 e.toNat)
    let (m, e) := if m == Nat.pow 2 53 then (Nat.pow 2 52, e + 1) else (m, e)
    if greatestExponent < e then .infinity negative else .finite negative m e

/-- The double nearest to `± digits · 10^scale`. Scales far outside the range are
decided from the binary length, so no huge power is formed. -/
def ofDecimal (negative : Bool) (digits : Nat) (scale : Int) : Binary64 :=
  if digits == 0 then zero negative
  else if 320 < (digits.log2 : Int) * 3 / 10 + scale then .infinity negative
  else if ((digits.log2 : Int) + 1) * 31 / 100 + 1 + scale < -330 then zero negative
  else ofRatio negative (digits * Nat.pow 10 scale.toNat) (Nat.pow 10 (-scale).toNat)

def ofInt (n : Int) : Binary64 := ofRatio (n < 0) n.natAbs 1

def isFinite : Binary64 → Bool
  | .finite .. => true
  | _ => false

/-- The point on the number line; both zeros are the same point. -/
def quantity : Binary64 → Quantity
  | .nan _ => .undefined
  | .infinity true => .below
  | .infinity false => .above
  | .finite negative m e => .exact (if negative then -(m : Int) else m) e

/-- The value as a whole number, when it is one. -/
def toInt? : Binary64 → Option Int
  | .finite negative m e =>
    let whole : Option Nat :=
      if 0 ≤ e then some (m * Nat.pow 2 e.toNat)
      else if m % Nat.pow 2 (-e).toNat == 0 then some (m / Nat.pow 2 (-e).toNat) else none
    whole.map fun n => if negative then -(n : Int) else n
  | _ => none

/-- Zero of either sign. -/
def isZero : Binary64 → Bool
  | .finite _ m _ => m == 0
  | _ => false

end Binary64

end Storyboard

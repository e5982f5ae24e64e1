/-!
# Tables of characters

A property of characters is a list of closed ranges of code points, ascending
and apart. The tables of this library follow version 14.0 of the standard.
-/
namespace Storyboard.Text

/-- Closed ranges of code points. -/
abbrev Ranges := List (Nat × Nat)

/-- Whether a character lies in one of the ranges. -/
def Ranges.holds : Ranges → Nat → Bool
  | [], _ => false
  | (low, high) :: rest, n => if n < low then false else n ≤ high || holds rest n

end Storyboard.Text

import Storyboard.Text.Ranges

/-!
# Blank characters

The white-space property, and the wider set that also counts the four
information separators as blank.
-/
namespace Storyboard.Text

/-- The white-space property: 25 characters. -/
def whiteSpaceRanges : Ranges :=
  [(0x09, 0x0D), (0x20, 0x20), (0x85, 0x85), (0xA0, 0xA0), (0x1680, 0x1680), (0x2000, 0x200A),
   (0x2028, 0x2029), (0x202F, 0x202F), (0x205F, 0x205F), (0x3000, 0x3000)]

def isWhiteSpace (c : Char) : Bool := whiteSpaceRanges.holds c.toNat

/-- White space or one of the separators `U+001C` to `U+001F`. -/
def isBlank (c : Char) : Bool := isWhiteSpace c || (0x1C ≤ c.toNat && c.toNat ≤ 0x1F)

/-- A text without the characters of a class at its two ends. -/
def trimBoth (drop : Char → Bool) (s : List Char) : List Char :=
  ((s.dropWhile drop).reverse.dropWhile drop).reverse

/-- A text without blank characters at its two ends. -/
def strip (s : List Char) : List Char := trimBoth isBlank s

/-- A text without one final line break. -/
def dropFinalBreak (s : List Char) : List Char :=
  match s.reverse with
  | '\n' :: rest => rest.reverse
  | _ => s

end Storyboard.Text

/-!
# Base64

Three bytes are four digits of six bits; a last group that is short is filled up
with equals signs.
-/
namespace Storyboard.Text

/-- The digit for six bits. -/
def base64Digit (n : Nat) : Char :=
  Char.ofNat <|
    if n < 26 then 65 + n
    else if n < 52 then 71 + n
    else if n < 62 then n - 4
    else if n == 62 then 43
    else 47

/-- The digits of some bytes. -/
def base64Digits : List Nat → List Char
  | [] => []
  | [a] => [base64Digit (a / 4), base64Digit (a % 4 * 16), '=', '=']
  | [a, b] =>
    [base64Digit (a / 4), base64Digit (a % 4 * 16 + b / 16), base64Digit (b % 16 * 4), '=']
  | a :: b :: c :: rest =>
    base64Digit (a / 4) :: base64Digit (a % 4 * 16 + b / 16) ::
      base64Digit (b % 16 * 4 + c / 64) :: base64Digit (c % 64) :: base64Digits rest

def base64 (bytes : List Nat) : String := String.ofList (base64Digits bytes)

end Storyboard.Text

import Storyboard.Json.Reader
import Storyboard.Text.Utf8

/-!
# Percent-encoding

A character that cannot stand in a part of an address is written as the bytes of
its UTF-8 form, each as a percent sign with two hexadecimal digits. A percent sign
always stands for itself, so that encoding twice changes nothing.
-/
namespace Storyboard.Http

def upperHex (n : Nat) : Char := Char.ofNat (if n < 10 then 48 + n else 55 + n)

/-- A character as the bytes of its UTF-8 form, each percent-encoded. -/
def percent (c : Char) : List Char :=
  (Text.Utf8.encodeChar c).flatMap fun b => ['%', upperHex (b / 16), upperHex (b % 16)]

/-- The characters that stand for themselves in every part. -/
def isUnreserved (c : Char) : Bool := c.isAlphanum || ['-', '.', '_', '~'].contains c

/-- Printable ASCII without some characters. -/
def printableBut (barred : List Char) (c : Char) : Bool :=
  0x20 ≤ c.toNat && c.toNat < 0x7F && !barred.contains c

def queryBarred : List Char := [' ', '"', '#', '<', '>']

def pathBarred : List Char := queryBarred ++ ['?', Char.ofNat 0x60, '\x7b', '\x7d']

/-- A colon is kept: it parts the name from the password. -/
def userInfoBarred : List Char := pathBarred ++ ['/', ';', '=', '@', '[', '\\', ']', '^', '|']

def fragmentBarred : List Char := [' ', '"', '<', '>', Char.ofNat 0x60]

def hostKept (c : Char) : Bool :=
  "!$&'()*+,;=\"%|\\".toList.contains c || c == '\x7b' || c == '\x7d' || c.toNat == 0x60

/-- Encodes the characters that are not safe. -/
def encodePart (safe : Char → Bool) (s : List Char) : String :=
  String.ofList (s.flatMap fun c => if isUnreserved c || safe c then [c] else percent c)

/-- The bytes of an encoded text; a percent sign without two digits is itself. -/
def encodedBytes : List Char → List Nat
  | [] => []
  | '%' :: a :: b :: rest =>
    match Json.hexValue? a, Json.hexValue? b with
    | some high, some low => (high * 16 + low) :: encodedBytes rest
    | _, _ => 0x25 :: encodedBytes (a :: b :: rest)
  | c :: rest => Text.Utf8.encodeChar c ++ encodedBytes rest
  termination_by s => s.length

/-- The text an encoded text stands for. -/
def decodePart (s : List Char) : String := Text.Utf8.decodeLossy (encodedBytes s)

end Storyboard.Http

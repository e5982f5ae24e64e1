import Storyboard.Json.Writer

/-!
# Labels in ASCII

A label is written in ASCII as its ASCII characters, a hyphen, and a row of numbers
that say which other characters go where. A number is how far the place moves on,
over all characters and all places of the label so far, until the next insertion.
-/
namespace Storyboard.HostName

/-- The least digit that ends a number, at place `j` of it. -/
def threshold (bias j : Nat) : Nat := Nat.min (Nat.max (36 * (j + 1) - bias) 1) 26

/-- Shrinks a delta to the range of one digit; gives it with the steps taken times 36.
`fuel` is the delta, which shrinks with every step. -/
def shrink : Nat → Nat → Nat × Nat
  | 0, delta => (delta, 0)
  | fuel + 1, delta =>
    if 455 < delta then
      let (delta, steps) := shrink fuel (delta / 35)
      (delta, steps + 36)
    else (delta, 0)

/-- The bias after a delta, in a label of `count` characters. -/
def adapt (first : Bool) (delta count : Nat) : Nat :=
  let delta := if first then delta / 700 else delta / 2
  let delta := delta + delta / count
  let (delta, steps) := shrink delta delta
  steps + 36 * delta / (delta + 38)

/-- A digit: a letter for a number below 26, a decimal digit for the others. -/
def digitChar (n : Nat) : Char := Char.ofNat (if n < 26 then 97 + n else 22 + n)

def digitOf? (c : Char) : Option Nat :=
  if 'a' ≤ c && c ≤ 'z' then some (c.toNat - 97)
  else if 'A' ≤ c && c ≤ 'Z' then some (c.toNat - 65)
  else if '0' ≤ c && c ≤ '9' then some (c.toNat - 22)
  else none

/-- A number from its place `j` on; `fuel` is at least the number. -/
def numberDigits (bias j : Nat) : Nat → Nat → List Char
  | 0, n => [digitChar n]
  | fuel + 1, n =>
    let t := threshold bias j
    if n < t then [digitChar n]
    else digitChar (t + (n - t) % (36 - t)) :: numberDigits bias (j + 1) fuel ((n - t) / (36 - t))

/-- Where the writing of a label stands. -/
structure Encoding where
  bias : Nat
  /-- How far the place has moved since the last insertion. -/
  delta : Nat
  /-- How many characters are in place. -/
  count : Nat
  first : Bool
  digits : List Char

/-- Passes the places of a label for the character `n`: earlier characters count as
places, the character itself is an insertion, later ones are not there yet. -/
def Encoding.pass (n : Nat) (e : Encoding) : List Nat → Encoding
  | [] => { e with delta := e.delta + 1 }
  | c :: rest =>
    if c < n then pass n { e with delta := e.delta + 1 } rest
    else if c == n then
      pass n ⟨adapt e.first e.delta (e.count + 1), 0, e.count + 1, false,
        e.digits ++ numberDigits e.bias 0 e.delta e.delta⟩ rest
    else pass n e rest

/-- The distinct characters beyond ASCII, ascending. -/
def extraChars (codes : List Nat) : List Nat :=
  ((codes.filter (128 ≤ ·)).mergeSort (· ≤ ·)).eraseDups

/-- Writes the numbers for the given characters, the last one passed being `last`. -/
def encodeExtra (codes : List Nat) (last : Nat) (e : Encoding) : List Nat → List Char
  | [] => e.digits
  | n :: rest =>
    let e := { e with delta := e.delta + (n - last) * (e.count + 1) }
    encodeExtra codes (n + 1) (e.pass n codes) rest

/-- A label in ASCII. -/
def punycode (label : List Char) : List Char :=
  let codes := label.map Char.toNat
  let plain := label.filter fun c => c.toNat < 128
  let digits := encodeExtra codes 128 ⟨72, 0, plain.length, true, []⟩ (extraChars codes)
  if plain.isEmpty then digits else plain ++ '-' :: digits

/-- One number with what follows it. -/
def readNumber (bias j weight acc : Nat) : List Char → Option (Nat × List Char)
  | [] => none
  | c :: rest => do
    let digit ← digitOf? c
    let acc := acc + digit * weight
    let t := threshold bias j
    if digit < t then some (acc, rest)
    else readNumber bias (j + 1) (weight * (36 - t)) acc rest

/-- Makes the insertions; `place` is the one behind the last insertion, and `fuel` is
the number of digits. -/
def insertions (bias char place : Nat) (first : Bool) (label : List Nat) :
    Nat → List Char → Option (List Nat)
  | _, [] => some label
  | 0, _ => some label
  | fuel + 1, digits => do
    let (delta, rest) ← readNumber bias 0 1 0 digits
    let places := label.length + 1
    let char := char + (place + delta) / places
    if 0x10FFFF < char then none
    else
      let place := (place + delta) % places
      insertions (adapt first delta places) char (place + 1) false
        (label.take place ++ char :: label.drop place) fuel rest

/-- The label that is written in ASCII. -/
def readPunycode? (s : List Char) : Option (List Char) :=
  let back := s.reverse
  let digits := (back.takeWhile (· != '-')).reverse
  let plain := ((back.dropWhile (· != '-')).drop 1).reverse
  (insertions 72 128 0 true (plain.map Char.toNat) digits.length digits).map fun codes =>
    codes.map Char.ofNat

end Storyboard.HostName

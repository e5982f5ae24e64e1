import Storyboard.Charset.Chinese
import Storyboard.Charset.KoreanRows

/-!
# Korean

The table has the common syllables only. Any other one can be spelt out as a filler
and three letters, eight bytes in all, or has a place in the vendor's extension, where
the missing syllables follow each other in order.
-/
namespace Storyboard.Charset

/-- The character of a row and a cell, both counted from 0x21. -/
def korean? (row cell : Nat) : Option Char :=
  if cell < 0x21 then none else koreanRows.char? row (cell - 0x21)

def koreanPair? (a b : Nat) : Option Char :=
  if a < 0x80 || b < 0x80 then none else korean? (a - 0x80) (b - 0x80)

/-- The first byte of a letter, and the second byte of the filler. -/
def letterByte : Nat := 0xA4

def fillerByte : Nat := 0xD4

/-- The consonants as the table orders them, each with its number as the beginning of
a syllable and as its end; a consonant may lack one. -/
def consonants : List (Option Nat × Option Nat) :=
  [(some 0, some 1), (some 1, some 2), (none, some 3), (some 2, some 4), (none, some 5),
   (none, some 6), (some 3, some 7), (some 4, none), (some 5, some 8), (none, some 9),
   (none, some 10), (none, some 11), (none, some 12), (none, some 13), (none, some 14),
   (none, some 15), (some 6, some 16), (some 7, some 17), (some 8, none), (none, some 18),
   (some 9, some 19), (some 10, some 20), (some 11, some 21), (some 12, some 22),
   (some 13, none), (some 14, some 23), (some 15, some 24), (some 16, some 25),
   (some 17, some 26), (some 18, some 27)]

/-- The syllable of three letters, by the second bytes of the letters. -/
def spelt? (first middle last : Nat) : Option Nat := do
  if first < 0xA1 || middle < 0xBF || 0xD3 < middle || last < 0xA1 then none
  let (lead, _) ← consonants[first - 0xA1]?
  let lead ← lead
  let tail ← if last == fillerByte then some 0
    else (consonants[last - 0xA1]?).bind (·.2)
  return 0xAC00 + lead * 588 + (middle - 0xBF) * 28 + tail

def eucKoreanStep : List Nat → Step
  | [] => .fault 0
  | a :: rest =>
    if a < 0x80 then .char a 1
    else match rest with
      | [] => .fault 1
      | b :: more =>
        if a == letterByte && b == fillerByte then
          match more with
          | x :: first :: y :: middle :: z :: last :: _ =>
            if x == letterByte && y == letterByte && z == letterByte then
              match spelt? first middle last with
              | some code => .char code 8
              | none => .fault 1
            else .fault 1
          | more => .fault (more.length + 2)
        else .ofTable (koreanPair? a b) 2 1

/-- The syllables the table has, in order. -/
def tableSyllables : List Nat :=
  (koreanRows.flatMap fun row => row.2.toList.map Char.toNat).filter fun n =>
    0xAC00 ≤ n && n < 0xD7A4

/-- The code of the missing syllable with a number, from `code` on; `present` holds the
syllables of the table that are not passed yet. -/
def missingSyllable (code : Nat) (present : List Nat) : Nat → Nat → Nat
  | 0, _ => code
  | fuel + 1, n =>
    match present with
    | next :: later =>
      if next == code then missingSyllable (code + 1) later fuel n
      else if n < next - code then code + n
      else missingSyllable (next + 1) later fuel (n - (next - code))
    | [] => code + n

/-- The number of a second byte in the extension. -/
def extensionCell? (b : Nat) : Option Nat :=
  if 0x41 ≤ b && b ≤ 0x5A then some (b - 0x41)
  else if 0x61 ≤ b && b ≤ 0x7A then some (b - 0x61 + 26)
  else if 0x81 ≤ b && b ≤ 0xFE then some (b - 0x81 + 52)
  else none

/-- How many syllables are missing in the table. -/
def missingCount : Nat := 8822

/-- The number of a pair in the extension. Rows from 0xA1 on keep clear of the table. -/
def extensionPlace? (a b : Nat) : Option Nat := do
  let cell ← extensionCell? b
  if 0x81 ≤ a && a ≤ 0xA0 then return (a - 0x81) * 178 + cell
  else if 0xA1 ≤ a && a ≤ 0xC6 && cell < 84 then
    let n := 32 * 178 + (a - 0xA1) * 84 + cell
    if n < missingCount then return n else none
  else none

def windowsKorean? (a b : Nat) : Option Char :=
  (koreanPair? a b).orElse fun _ =>
    (extensionPlace? a b).map fun n =>
      Char.ofNat (missingSyllable 0xAC00 tableSyllables (tableSyllables.length + 1) n)

end Storyboard.Charset

import Storyboard.Charset.ChineseExtension
import Storyboard.Charset.ChineseRows
import Storyboard.Charset.Decoding
import Storyboard.Charset.TraditionalRows

/-!
# Chinese

Simplified Chinese has a table that was extended twice, at last to all characters
there are. Traditional Chinese has a table of its own.
-/
namespace Storyboard.Charset

/-- A step for ASCII and pairs of bytes. -/
def pairStep (found : Nat → Nat → Option Char) : List Nat → Step
  | [] => .fault 0
  | a :: rest =>
    if a < 0x80 then .char a 1
    else match rest with
      | [] => .fault 1
      | b :: _ => .ofTable (found a b) 2 1

/-- The character of a row and a cell, both counted from 0x21. -/
def chinese? (row cell : Nat) : Option Char :=
  if cell < 0x21 then none else chineseRows.char? row (cell - 0x21)

def chinesePair? (a b : Nat) : Option Char :=
  if a < 0x80 || b < 0x80 then none else chinese? (a - 0x80) (b - 0x80)

/-- The cell of a second byte from 0x40 to 0xA0. -/
def lowCell (b : Nat) : Nat := if b < 0x7F then b - 0x40 else b - 0x41

/-- Looks a pair up in two tables, by the second byte. -/
def splitTable? (low high : Rows) (a b : Nat) : Option Char :=
  if b < 0x40 || b == 0x7F then none
  else if b < 0xA1 then low.char? a (lowCell b)
  else high.char? a (b - 0xA1)

/-- The first extension; it reads two of the signs otherwise. -/
def extendedChinese? (a b : Nat) : Option Char :=
  if a == 0xA1 && b == 0xA4 then some (Char.ofNat 0xB7)
  else if a == 0xA1 && b == 0xAA then some (Char.ofNat 0x2014)
  else (chinesePair? a b).orElse fun _ => splitTable? chineseLow chineseHigh a b

/-- The places for private use, which are numbered in their order. -/
def privateChinese? (a b : Nat) : Option Char :=
  if 0xAA ≤ a && a ≤ 0xAF && 0xA1 ≤ b && b ≤ 0xFE then
    some (Char.ofNat (0xE000 + (a - 0xAA) * 94 + (b - 0xA1)))
  else if 0xF8 ≤ a && a ≤ 0xFE && 0xA1 ≤ b && b ≤ 0xFE then
    some (Char.ofNat (0xE234 + (a - 0xF8) * 94 + (b - 0xA1)))
  else if 0xA1 ≤ a && a ≤ 0xA7 && 0x40 ≤ b && b ≤ 0xA0 && b != 0x7F then
    some (Char.ofNat (0xE4C6 + (a - 0xA1) * 96 + lowCell b))
  else none

def fullChinese? (a b : Nat) : Option Char :=
  ((extendedChinese? a b).orElse fun _ => privateChinese? a b).orElse fun _ =>
    splitTable? remainderLow remainderHigh a b

/-- How many characters of four bytes the first plane has. -/
def fourByteCount : Nat := 39420

/-- The character with a number among those of four bytes. -/
def fourByteChar (n : Nat) : Nat :=
  match (fourByteRuns.takeWhile fun run => run.1 ≤ n).getLast? with
  | some (start, first) => first + (n - start)
  | none => 0

/-- A character of four bytes: bytes with 126 and with 10 values take turns. -/
def fourBytes? (a b c d : Nat) : Option Nat :=
  if a < 0x81 || 0xFE < a || c < 0x81 || 0xFE < c || d < 0x30 || 0x39 < d then none
  else
    let tail := (c - 0x81) * 10 + (d - 0x30)
    let lead := a - 0x81
    let number (lead : Nat) : Nat := (lead * 10 + (b - 0x30)) * 1260 + tail
    if lead < 4 then
      if number lead < fourByteCount then some (fourByteChar (number lead)) else none
    else if lead < 15 then none
    else
      let code := 0x10000 + number (lead - 15)
      if code ≤ 0x10FFFF then some code else none

def fullChineseStep : List Nat → Step
  | [] => .fault 0
  | a :: rest =>
    if a < 0x80 then .char a 1
    else match rest with
      | [] => .fault 1
      | b :: more =>
        if 0x30 ≤ b && b ≤ 0x39 then
          match more with
          | c :: d :: _ =>
            match fourBytes? a b c d with
            | some code => .char code 4
            | none => .fault 1
          | more => .fault (more.length + 2)
        else .ofTable (fullChinese? a b) 2 1

/-- The cell of a second byte in the table of traditional characters. -/
def traditionalCell? (b : Nat) : Option Nat :=
  if 0x40 ≤ b && b ≤ 0x7E then some (b - 0x40)
  else if 0xA1 ≤ b && b ≤ 0xFE then some (b - 0xA1 + 63)
  else none

def traditional? (a b : Nat) : Option Char :=
  (traditionalCell? b).bind fun cell => traditionalRows.char? a cell

def windowsTraditional? (a b : Nat) : Option Char :=
  ((traditionalCell? b).bind fun cell => windowsTraditionalRows.char? a cell).orElse fun _ =>
    traditional? a b

end Storyboard.Charset

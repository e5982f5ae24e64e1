import Storyboard.Charset.Decoding
import Storyboard.Charset.JapaneseRows

/-!
# Japanese

The table is written in two ways: with both bytes of a character beyond 0xA0, or
with the first byte in the places that the narrow syllabary leaves free.
-/
namespace Storyboard.Charset

/-- The narrow syllabary, which has one byte a character. -/
def isNarrowKana (b : Nat) : Bool := 0xA1 ≤ b && b ≤ 0xDF

def narrowKana (b : Nat) : Nat := 0xFEC0 + b

/-- The character of a row and a cell, both counted from 0x21. -/
def japanese? (row cell : Nat) : Option Char :=
  if cell < 0x21 then none else japaneseRows.char? row (cell - 0x21)

def japaneseSupplement? (row cell : Nat) : Option Char :=
  if cell < 0x21 then none else japaneseSupplement.char? row (cell - 0x21)

def windowsJapanese? (row cell : Nat) : Option Char :=
  (windowsJapaneseRows.char? row (cell - 0x21)).orElse fun _ => japanese? row cell

def eucJapaneseStep : List Nat → Step
  | [] => .fault 0
  | 0x8E :: rest =>
    match rest with
    | [] => .fault 1
    | b :: _ => if isNarrowKana b then .char (narrowKana b) 2 else .fault 1
  | 0x8F :: rest =>
    match rest with
    | a :: b :: _ =>
      if a < 0x80 || b < 0x80 then .fault 1
      else .ofTable (japaneseSupplement? (a - 0x80) (b - 0x80)) 3 1
    | rest => .fault (rest.length + 1)
  | a :: rest =>
    if a < 0x80 then .char a 1
    else match rest with
      | [] => .fault 1
      | b :: _ => if b < 0x80 then .fault 1 else .ofTable (japanese? (a - 0x80) (b - 0x80)) 2 1

/-- Row and cell of a shifted pair of bytes: each first byte covers two rows. -/
def shiftedPlace? (a b : Nat) : Option (Nat × Nat) :=
  if (a < 0x81 || 0x9F < a) && (a < 0xE0 || 0xFC < a) then none
  else if b < 0x40 || b == 0x7F || 0xFC < b then none
  else
    let pair := if a < 0xE0 then a - 0x81 else a - 0xC1
    let cell := if b < 0x80 then b - 0x40 else b - 0x41
    some (2 * pair + cell / 94 + 0x21, cell % 94 + 0x21)

def shiftJapaneseStep : List Nat → Step
  | [] => .fault 0
  | a :: rest =>
    if a < 0x80 then .char a 1
    else if isNarrowKana a then .char (narrowKana a) 1
    else if a == 0x80 || a == 0xA0 || 0xFC < a then .fault 1
    else match rest with
      | [] => .fault 1
      | b :: _ => .ofTable ((shiftedPlace? a b).bind fun (row, cell) => japanese? row cell) 2 1

/-- The vendor's characters, with first bytes from 0xF0 to 0xF9 for private use. -/
def windowsJapaneseStep : List Nat → Step
  | [] => .fault 0
  | a :: rest =>
    if a ≤ 0x80 then .char a 1
    else if a == 0xA0 then .char 0xF8F0 1
    else if isNarrowKana a then .char (narrowKana a) 1
    else if 0xFD ≤ a then .char (0xF8F1 + (a - 0xFD)) 1
    else match rest with
      | [] => .fault 1
      | b :: _ =>
        match shiftedPlace? a b with
        | none => .fault 1
        | some (row, cell) =>
          if 0xF0 ≤ a && a ≤ 0xF9 then
            .char (0xE000 + 188 * (a - 0xF0) + (if b < 0x80 then b - 0x40 else b - 0x41)) 2
          else .ofTable (windowsJapanese? row cell) 2 1

end Storyboard.Charset

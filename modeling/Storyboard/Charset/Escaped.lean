import Storyboard.Charset.Decoding
import Storyboard.Json.Reader

/-!
# Escaped text

Bytes are the characters of their numbers, and a backslash begins an escape for another
character. The plain form knows escapes by number only; the full form has those of
string literals as well, without names of characters.
-/
namespace Storyboard.Charset

/-- Reads up to `count` hexadecimal digits: their value and how many there are. -/
def hexRun (count : Nat) (bytes : List Nat) : Nat × Nat :=
  let digits := (bytes.take count).map fun b => Json.hexValue? (Char.ofNat b)
  let found := (digits.takeWhile Option.isSome).filterMap id
  (found.foldl (fun n d => n * 16 + d) 0, found.length)

/-- An escape by a number of `count` digits, behind a backslash and a letter. -/
def numberEscape (count : Nat) (rest : List Nat) : Step :=
  let (code, found) := hexRun count rest
  if found < count || 0x10FFFF < code then .fault (found + 2)
  else if 0xD800 ≤ code && code < 0xE000 then .char 0xFFFD (count + 2)
  else .char code (count + 2)

/-- An octal escape has up to three digits. -/
def octalEscape (rest : List Nat) : Step :=
  let digits := (rest.take 3).takeWhile fun b => 48 ≤ b && b ≤ 55
  .char (digits.foldl (fun n b => n * 8 + (b - 48)) 0) (digits.length + 1)

/-- A name in braces, which is never known. -/
def nameEscape (rest : List Nat) : Step :=
  match rest with
  | 0x7B :: name =>
    let found := name.takeWhile (· != 0x7D)
    if found.length == name.length then .fault (name.length + 3)
    else if found.isEmpty then .fault 3
    else .fault (found.length + 4)
  | _ => .fault 2

/-- The character that an escape of one letter stands for. -/
def letterEscape? (c : Char) : Option Nat :=
  match c with
  | '\\' => some 0x5C
  | '\'' => some 0x27
  | '"' => some 0x22
  | 'a' => some 0x07
  | 'b' => some 0x08
  | 't' => some 0x09
  | 'n' => some 0x0A
  | 'v' => some 0x0B
  | 'f' => some 0x0C
  | 'r' => some 0x0D
  | _ => none

/-- Escapes by number. -/
def plainEscapedStep : List Nat → Step
  | [] => .fault 0
  | 0x5C :: 0x75 :: rest => numberEscape 4 rest
  | 0x5C :: 0x55 :: rest => numberEscape 8 rest
  | 0x5C :: b :: _ => .chars ['\\', Char.ofNat b] 2
  | b :: _ => .char b 1

/-- Escapes of string literals. -/
def fullEscapedStep : List Nat → Step
  | [] => .fault 0
  | [0x5C] => .fault 1
  | 0x5C :: b :: rest =>
    if b == 0x0A then .chars [] 2
    else if 48 ≤ b && b ≤ 55 then octalEscape (b :: rest)
    else match Char.ofNat b with
      | 'x' => numberEscape 2 rest
      | 'u' => numberEscape 4 rest
      | 'U' => numberEscape 8 rest
      | 'N' => nameEscape rest
      | c =>
        match letterEscape? c with
        | some code => .char code 2
        | none => .chars ['\\', c] 2
  | b :: _ => .char b 1

end Storyboard.Charset

import Storyboard.Number.Binary64
import Storyboard.Text.Blank

/-!
# Numerals in running text

Whole numbers as people type them: white space around, a sign, digits of any script,
single low lines between digits. Each script with decimal digits has ten of them in
a row, so the table of digits lists the zeros.
-/
namespace Storyboard

namespace Text

/-- The digits with value zero. -/
def digitZeros : List Nat :=
  [0x30, 0x660, 0x6F0, 0x7C0, 0x966, 0x9E6, 0xA66, 0xAE6, 0xB66, 0xBE6, 0xC66, 0xCE6, 0xD66,
   0xDE6, 0xE50, 0xED0, 0xF20, 0x1040, 0x1090, 0x17E0, 0x1810, 0x1946, 0x19D0, 0x1A80, 0x1A90,
   0x1B50, 0x1BB0, 0x1C40, 0x1C50, 0xA620, 0xA8D0, 0xA900, 0xA9D0, 0xA9F0, 0xAA50, 0xABF0,
   0xFF10, 0x104A0, 0x10D30, 0x11066, 0x110F0, 0x11136, 0x111D0, 0x112F0, 0x11450, 0x114D0,
   0x11650, 0x116C0, 0x11730, 0x118E0, 0x11950, 0x11C50, 0x11D50, 0x11DA0, 0x16A60, 0x16AC0,
   0x16B50, 0x1D7CE, 0x1D7D8, 0x1D7E2, 0x1D7EC, 0x1D7F6, 0x1E140, 0x1E2F0, 0x1E950, 0x1FBF0]

/-- The value of a decimal digit of any script. -/
def digitValue? (c : Char) : Option Nat :=
  (digitZeros.find? fun z => z ≤ c.toNat && c.toNat < z + 10).map (c.toNat - ·)

end Text

namespace Numeral

/-- Digits with single low lines between them; `pending` says that a digit must
follow. The value of the digits is added to `acc`. -/
def digitRun (acc : Nat) (pending : Bool) : List Char → Option Nat
  | [] => if pending then none else some acc
  | '_' :: rest => if pending then none else digitRun acc true rest
  | c :: rest =>
    match Text.digitValue? c with
    | some d => digitRun (acc * 10 + d) false rest
    | none => none

/-- A sign, then digits. -/
def signed (s : List Char) : Option Int :=
  match s with
  | '-' :: rest => (digitRun 0 true rest).map fun (n : Nat) => -(n : Int)
  | '+' :: rest => (digitRun 0 true rest).map fun (n : Nat) => (n : Int)
  | rest => (digitRun 0 true rest).map fun (n : Nat) => (n : Int)

/-- The longest numeral that is read as a number. -/
def digitLimit : Nat := 4300

/-- A whole number with white space around it. -/
def parseInt? (s : List Char) : Option Int :=
  let body := Text.trimBoth Text.isWhiteSpace s
  if digitLimit < (body.filter fun c => (Text.digitValue? c).isSome).length then none
  else signed body

def isPlainDigit (c : Char) : Bool := 48 ≤ c.toNat && c.toNat ≤ 57

def plainValue (ds : List Char) : Nat := ds.foldl (fun n c => n * 10 + (c.toNat - 48)) 0

/-- The exponent behind a decimal: nothing, or a mark, a sign and digits. -/
def exponent? (s : List Char) : Option Int :=
  let natural (ds : List Char) : Option Nat :=
    if ds.isEmpty || !ds.all isPlainDigit then none else some (plainValue ds)
  match s with
  | [] => some 0
  | mark :: rest =>
    if mark.toLower != 'e' then none
    else match rest with
      | '-' :: ds => (natural ds).map fun (n : Nat) => -(n : Int)
      | '+' :: ds => (natural ds).map fun (n : Nat) => (n : Int)
      | ds => (natural ds).map fun (n : Nat) => (n : Int)

/-- A decimal without its sign: digits around a point, at least one, and an exponent;
or the name of a special value in any case. -/
def magnitude? (negative : Bool) (s : List Char) : Option Binary64 :=
  match String.ofList (s.map Char.toLower) with
  | "inf" => some (.infinity negative)
  | "infinity" => some (.infinity negative)
  | "nan" => some (.nan 0)
  | _ =>
    let whole := s.takeWhile isPlainDigit
    let (decimals, rest) := match s.dropWhile isPlainDigit with
      | '.' :: rest => (rest.takeWhile isPlainDigit, rest.dropWhile isPlainDigit)
      | rest => ([], rest)
    if whole.isEmpty && decimals.isEmpty then none
    else (exponent? rest).map fun e =>
      .ofDecimal negative (plainValue (whole ++ decimals)) (e - decimals.length)

/-- A number with an optional fraction and exponent, white space around it. -/
def parseFloat? (s : List Char) : Option Binary64 :=
  match Text.trimBoth Text.isWhiteSpace s with
  | '-' :: rest => magnitude? true rest
  | '+' :: rest => magnitude? false rest
  | rest => magnitude? false rest

end Numeral

end Storyboard

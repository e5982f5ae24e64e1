import Storyboard.Charset.Wide

/-!
# Seven-bit text

Characters beyond ASCII are units of two bytes in digits of six bits, between a plus
sign and the first character that is no digit; a hyphen there is left out.
-/
namespace Storyboard.Charset

/-- A digit of six bits. -/
def sixBits? (b : Nat) : Option Nat :=
  if 65 ≤ b && b ≤ 90 then some (b - 65)
  else if 97 ≤ b && b ≤ 122 then some (b - 71)
  else if 48 ≤ b && b ≤ 57 then some (b + 4)
  else if b == 43 then some 62
  else if b == 47 then some 63
  else none

/-- A run of digits that is being read. -/
structure Run where
  /-- The bits that make no unit yet, and their count. -/
  value : Nat
  bits : Nat
  /-- A high surrogate that waits for the low one. -/
  high : Option Nat
  deriving DecidableEq, Repr

def Run.start : Run := ⟨0, 0, none⟩

/-- Takes a unit out of the run, if there is one. -/
def Run.unit (run : Run) : Step × Run :=
  if run.bits < 16 then (.chars [] 1, run)
  else
    let left := Nat.pow 2 (run.bits - 16)
    let unit := run.value / left
    let run : Run := ⟨run.value % left, run.bits - 16, run.high⟩
    match run.high with
    | some high =>
      if isLowSurrogate unit then (.char (joinSurrogates high unit) 1, { run with high := none })
      else if isHighSurrogate unit then (.char 0xFFFD 1, { run with high := some unit })
      else (.chars [Char.ofNat 0xFFFD, Char.ofNat unit] 1, { run with high := none })
    | none =>
      if isHighSurrogate unit then (.chars [] 1, { run with high := some unit })
      else if isLowSurrogate unit then (.char 0xFFFD 1, run)
      else (.char unit 1, run)

/-- Whether bits are left over that should not be. -/
def Run.isRagged (run : Run) : Bool := 6 ≤ run.bits || run.value != 0

def sevenBitStep (run : Option Run) : List Nat → Step × Option Run
  | [] => (.fault 0, run)
  | b :: rest =>
    match run with
    | some run =>
      match sixBits? b with
      | some digit =>
        let (step, run) := Run.unit ⟨run.value * 64 + digit, run.bits + 6, run.high⟩
        (step, some run)
      | none =>
        if run.isRagged then (.fault 1, none)
        else
          let lone : List Char := if run.high.isSome && b < 0x80 then [Char.ofNat 0xFFFD] else []
          (.chars lone (if b == 0x2D then 1 else 0), none)
    | none =>
      if b == 0x2B then
        match rest with
        | [] => (.chars [] 1, some .start)
        | c :: _ =>
          if c == 0x2D then (.char 0x2B 2, none)
          else if (sixBits? c).isSome then (.chars [] 1, some .start)
          else (.fault 2, none)
      else if b < 0x80 then (.char b 1, none)
      else (.fault 1, none)

/-- Decodes seven-bit text. Leaving a run takes a step of its own, and a run that does
not end well is a fault. -/
def decodeSevenBit (bytes : List Nat) : List (Option Char) :=
  match decodeFrom sevenBitStep none [] (2 * bytes.length) bytes with
  | (text, some run) => if run.high.isSome || run.isRagged then text ++ [none] else text
  | (text, none) => text

end Storyboard.Charset

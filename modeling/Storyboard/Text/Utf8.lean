/-!
# UTF-8

Decoding checks each sequence byte by byte and stops at the first one that
cannot be continued. A fault covers the bytes that were acceptable up to there.
`decodeLossy` puts the replacement character in the place of each fault.
-/
namespace Storyboard.Text.Utf8

/-- Why a sequence of bytes is refused. -/
inductive Reason where
  | invalidStart
  | invalidContinuation
  | unexpectedEnd
  deriving DecidableEq, Repr

def Reason.message : Reason → String
  | .invalidStart => "invalid start byte"
  | .invalidContinuation => "invalid continuation byte"
  | .unexpectedEnd => "unexpected end of data"

/-- A refused sequence: its offset, its first byte and its length. -/
structure Fault where
  offset : Nat
  first : Nat
  length : Nat
  reason : Reason
  deriving DecidableEq, Repr

/-- How many bytes follow a first byte, with the range of the second one. The
ranges leave out long forms, surrogates and values beyond the last character. -/
def following? (b : Nat) : Option (Nat × Nat × Nat) :=
  if b < 0xC2 then none
  else if b < 0xE0 then some (1, 0x80, 0xBF)
  else if b == 0xE0 then some (2, 0xA0, 0xBF)
  else if b == 0xED then some (2, 0x80, 0x9F)
  else if b < 0xF0 then some (2, 0x80, 0xBF)
  else if b == 0xF0 then some (3, 0x90, 0xBF)
  else if b < 0xF4 then some (3, 0x80, 0xBF)
  else if b == 0xF4 then some (3, 0x80, 0x8F)
  else none

/-- Reads `count` continuation bytes; `seen` is the length read so far. -/
def continuation (code seen : Nat) : Nat → Nat → Nat → List Nat →
    Except (Nat × Reason) (Nat × List Nat)
  | 0, _, _, rest => .ok (code, rest)
  | _ + 1, _, _, [] => .error (seen, .unexpectedEnd)
  | count + 1, low, high, b :: rest =>
    if low ≤ b && b ≤ high then
      continuation (code * 64 + (b - 0x80)) (seen + 1) count 0x80 0xBF rest
    else .error (seen, .invalidContinuation)

/-- One character: its code and the rest, or the length of the fault. -/
def sequence (b : Nat) (rest : List Nat) : Except (Nat × Reason) (Nat × List Nat) :=
  if b < 0x80 then .ok (b, rest)
  else match following? b with
    | none => .error (1, .invalidStart)
    | some (count, low, high) =>
      let lead := if count == 1 then b - 0xC0 else if count == 2 then b - 0xE0 else b - 0xF0
      continuation lead 1 count low high rest

/-- Decodes with at most `fuel` characters; `done` holds what was read, last first. -/
def decodeFrom (offset : Nat) (done : List Char) : Nat → List Nat → Except Fault String
  | _, [] => .ok (String.ofList done.reverse)
  | 0, _ => .ok (String.ofList done.reverse)
  | fuel + 1, b :: rest =>
    match sequence b rest with
    | .error (length, reason) => .error ⟨offset, b, length, reason⟩
    | .ok (code, after) =>
      decodeFrom (offset + (rest.length + 1 - after.length)) (Char.ofNat code :: done) fuel after

def decode (bytes : List Nat) : Except Fault String := decodeFrom 0 [] bytes.length bytes

def lossyFrom (done : List Char) : Nat → List Nat → String
  | _, [] => String.ofList done.reverse
  | 0, _ => String.ofList done.reverse
  | fuel + 1, b :: rest =>
    match sequence b rest with
    | .error (length, _) =>
      lossyFrom (Char.ofNat 0xFFFD :: done) fuel ((b :: rest).drop length)
    | .ok (code, after) => lossyFrom (Char.ofNat code :: done) fuel after

def decodeLossy (bytes : List Nat) : String := lossyFrom [] bytes.length bytes

/-- The bytes of one character. -/
def encodeChar (c : Char) : List Nat :=
  let n := c.toNat
  if n < 0x80 then [n]
  else if n < 0x800 then [0xC0 + n / 64, 0x80 + n % 64]
  else if n < 0x10000 then [0xE0 + n / 4096, 0x80 + n / 64 % 64, 0x80 + n % 64]
  else [0xF0 + n / 262144, 0x80 + n / 4096 % 64, 0x80 + n / 64 % 64, 0x80 + n % 64]

def encode (s : String) : List Nat := s.toList.flatMap encodeChar

end Storyboard.Text.Utf8

/-!
# Sources of bits

Compressed data is read in groups of bits. The first bit of a group is the lowest bit
of the byte that is not used up, and the first bit is the lowest of the group.
-/
namespace Storyboard.Compression

/-- What is wrong with compressed data. -/
inductive Fault where
  | header
  | method
  | window
  | flags
  | headerCheck
  | needsDictionary
  | blockKind
  | storedLengths
  | tooManySymbols
  | codeLengths
  | lengthRepeat
  | noBlockEnd
  | literalCodes
  | distanceCodes
  | literalCode
  | distanceCode
  | distance
  | dataCheck
  | lengthCheck
  deriving DecidableEq, Repr

/-- Why reading stops before the end: the data breaks off, or is wrong. -/
inductive Stop where
  | short
  | broken (fault : Fault)
  deriving DecidableEq, Repr

/-- Bits that are left of a byte, as a number with their count, and further bytes. -/
structure Source where
  held : Nat
  count : Nat
  rest : List Nat
  deriving DecidableEq, Repr

def Source.ofBytes (bytes : List Nat) : Source := ⟨0, 0, bytes⟩

/-- Reads one bit. -/
def Source.bit (s : Source) : Except Stop (Nat × Source) :=
  if 0 < s.count then .ok (s.held % 2, ⟨s.held / 2, s.count - 1, s.rest⟩)
  else match s.rest with
    | b :: rest => .ok (b % 2, ⟨b / 2, 7, rest⟩)
    | [] => .error .short

/-- Reads a number of so many bits. -/
def Source.bits (s : Source) : Nat → Except Stop (Nat × Source)
  | 0 => .ok (0, s)
  | n + 1 => do
    let (low, s) ← s.bit
    let (high, s) ← s.bits n
    return (low + 2 * high, s)

/-- Drops what is left of a byte. -/
def Source.align (s : Source) : Source := ⟨0, 0, s.rest⟩

/-- How many bits are left at most; a measure of the work ahead. -/
def Source.size (s : Source) : Nat := s.count + 8 * s.rest.length

end Storyboard.Compression

import Storyboard.Compression.Source

/-!
# Prefix codes

A code is given by the length of each symbol's word. Words of one length are numbered
in the order of the symbols, and shorter words come before longer ones.
-/
namespace Storyboard.Compression

/-- A prefix code: how many words there are of length one, two and so on, and the
symbols in the order of their words. -/
structure Code where
  counts : List Nat
  symbols : List Nat
  deriving DecidableEq, Repr

/-- The longest word. -/
def lengthLimit : Nat := 15

/-- The code with the given lengths; a symbol of length zero has no word. -/
def Code.ofLengths (lengths : List Nat) : Code :=
  let indexed := lengths.zipIdx
  let longest := lengths.foldl Nat.max 1
  let sizes := (List.range longest).map (· + 1)
  ⟨sizes.map fun n => lengths.count n,
    sizes.flatMap fun n => (indexed.filter fun p => p.1 == n).map (·.2)⟩

/-- The words of the longest length that no symbol has; none if there are more symbols
than words. -/
def spareWords (counts : List Nat) : Option Nat :=
  counts.foldl (fun spare count => do
    let spare ← spare
    if count ≤ 2 * spare then some (2 * spare - count) else none) (some 1)

/-- Whether every word is used. -/
def Code.isComplete (code : Code) : Bool := spareWords code.counts == some 0

/-- Whether the words suffice, and are all used unless they are single bits. -/
def Code.isSound (code : Code) : Bool :=
  code.isComplete || (code.counts.length == 1 && (spareWords code.counts).isSome)

/-- Reads a word bit by bit. Of the words of a length, `first` is the first one and
`index` the place of its symbol; `word` is what was read. None stands for a word that
no symbol has. -/
def Code.walk (code : Code) (word first index : Nat) (s : Source) :
    List Nat → Except Stop (Option Nat × Source)
  | [] => .ok (none, s)
  | count :: counts => do
    let (bit, s) ← s.bit
    let word := 2 * word + bit
    if word < first + count then return (code.symbols[index + (word - first)]?, s)
    else code.walk word (2 * (first + count)) (index + count) s counts

/-- Reads a symbol. -/
def Code.read (code : Code) (s : Source) : Except Stop (Option Nat × Source) :=
  code.walk 0 0 0 s code.counts

end Storyboard.Compression

import Storyboard.Compression.Huffman

/-!
# Inflating

Compressed data is a row of blocks. A block is stored, or is a row of symbols for bytes
and for repetitions of what came before, in codes that are fixed or that the block
brings along. Output is kept with its last byte first.
-/
namespace Storyboard.Compression

/-- Lengths of repetitions: the smallest one and the further bits, by symbol. -/
def lengthSymbols : List (Nat × Nat) :=
  [(3, 0), (4, 0), (5, 0), (6, 0), (7, 0), (8, 0), (9, 0), (10, 0), (11, 1), (13, 1), (15, 1),
   (17, 1), (19, 2), (23, 2), (27, 2), (31, 2), (35, 3), (43, 3), (51, 3), (59, 3), (67, 4),
   (83, 4), (99, 4), (115, 4), (131, 5), (163, 5), (195, 5), (227, 5), (258, 0)]

/-- Distances of repetitions, in the same way. -/
def distanceSymbols : List (Nat × Nat) :=
  [(1, 0), (2, 0), (3, 0), (4, 0), (5, 1), (7, 1), (9, 2), (13, 2), (17, 3), (25, 3), (33, 4),
   (49, 4), (65, 5), (97, 5), (129, 6), (193, 6), (257, 7), (385, 7), (513, 8), (769, 8),
   (1025, 9), (1537, 9), (2049, 10), (3073, 10), (4097, 11), (6145, 11), (8193, 12), (12289, 12),
   (16385, 13), (24577, 13)]

/-- The symbol that ends a block. -/
def endSymbol : Nat := 256

def fixedLiterals : Code :=
  Code.ofLengths (List.replicate 144 8 ++ List.replicate 112 9 ++ List.replicate 24 7 ++
    List.replicate 8 8)

def fixedDistances : Code := Code.ofLengths (List.replicate 32 5)

/-- The output so far, and where reading goes on or why it stops. -/
abbrev Progress := List Nat × Except Stop Source

/-- Repeats the output `distance` bytes back, byte by byte. -/
def repeatBack (distance : Nat) (out : List Nat) : Nat → List Nat
  | 0 => out
  | n + 1 => repeatBack distance ((out[distance - 1]?).getD 0 :: out) n

/-- A length and a distance, the length's symbol being read. -/
def readRepetition (distances : Code) (symbol : Nat) (available : Nat) (s : Source) :
    Except Stop ((Nat × Nat) × Source) := do
  let (base, extra) ← match lengthSymbols[symbol - 257]? with
    | some entry => .ok entry
    | none => .error (.broken .literalCode)
  let (more, s) ← s.bits extra
  let length := base + more
  let (symbol, s) ← distances.read s
  let (base, extra) ← match symbol.bind fun n => distanceSymbols[n]? with
    | some entry => .ok entry
    | none => .error (.broken .distanceCode)
  let (more, s) ← s.bits extra
  let distance := base + more
  if available < distance then throw (.broken .distance)
  return ((length, distance), s)

/-- The symbols of a block. Each one takes a bit, so the bits ahead are fuel enough. -/
def inflateSymbols (literals distances : Code) : Nat → List Nat → Source → Progress
  | 0, out, _ => (out, .error .short)
  | fuel + 1, out, s =>
    match literals.read s with
    | .error stop => (out, .error stop)
    | .ok (none, _) => (out, .error (.broken .literalCode))
    | .ok (some symbol, s) =>
      if symbol < endSymbol then inflateSymbols literals distances fuel (symbol :: out) s
      else if symbol == endSymbol then (out, .ok s)
      else match readRepetition distances symbol out.length s with
        | .error stop => (out, .error stop)
        | .ok ((length, distance), s) =>
          inflateSymbols literals distances fuel (repeatBack distance out length) s

/-- A stored block: its length, the complement of the length, and the bytes. -/
def inflateStored (out : List Nat) (s : Source) : Progress :=
  match (do
    let (length, s) ← s.align.bits 16
    let (complement, s) ← s.bits 16
    return ((length, complement), s) : Except Stop ((Nat × Nat) × Source)) with
  | .error stop => (out, .error stop)
  | .ok ((length, complement), s) =>
    if length + complement != 0xFFFF then (out, .error (.broken .storedLengths))
    else
      let taken := s.rest.take length
      let out := taken.reverse ++ out
      if taken.length < length then (out, .error .short)
      else (out, .ok (.ofBytes (s.rest.drop length)))

/-- The order in which the lengths of the code for lengths are given. -/
def lengthOrder : List Nat := [16, 17, 18, 0, 8, 7, 9, 6, 10, 5, 11, 4, 12, 3, 13, 2, 14, 1, 15]

/-- Reads so many groups of three bits. -/
def readTriples (s : Source) : Nat → Except Stop (List Nat × Source)
  | 0 => .ok ([], s)
  | n + 1 => do
    let (first, s) ← s.bits 3
    let (others, s) ← readTriples s n
    return (first :: others, s)

/-- Reads lengths until there are `total`; `done` holds them, last one first. A code
without words stands for zeros of one bit each. -/
def readLengths (code : Code) (total : Nat) : Nat → List Nat → Source →
    Except Stop (List Nat × Source)
  | 0, _, _ => .error .short
  | fuel + 1, done, s =>
    if total ≤ done.length then .ok (done.reverse, s)
    else do
      let (symbol, s) ← code.read s
      match symbol.getD 0 with
      | 16 =>
        let (more, s) ← s.bits 2
        match done with
        | [] => throw (.broken .lengthRepeat)
        | last :: _ => again (3 + more) last fuel done s
      | 17 =>
        let (more, s) ← s.bits 3
        again (3 + more) 0 fuel done s
      | 18 =>
        let (more, s) ← s.bits 7
        again (11 + more) 0 fuel done s
      | length => readLengths code total fuel (length :: done) s
where
  again (count length fuel : Nat) (done : List Nat) (s : Source) :
      Except Stop (List Nat × Source) :=
    if total < done.length + count then .error (.broken .lengthRepeat)
    else readLengths code total fuel (List.replicate count length ++ done) s

/-- The two codes of a block. -/
def readCodes (s : Source) : Except Stop ((Code × Code) × Source) := do
  let (literalCount, s) ← s.bits 5
  let (distanceCount, s) ← s.bits 5
  let (tripleCount, s) ← s.bits 4
  let literalCount := literalCount + 257
  let distanceCount := distanceCount + 1
  if 286 < literalCount || 30 < distanceCount then throw (.broken .tooManySymbols)
  let (triples, s) ← readTriples s (tripleCount + 4)
  let given := lengthOrder.zip triples
  let code := Code.ofLengths <|
    (List.range 19).map fun n => ((given.find? fun p => p.1 == n).map (·.2)).getD 0
  if !code.symbols.isEmpty && !code.isComplete then throw (.broken .codeLengths)
  let total := literalCount + distanceCount
  let (lengths, s) ← readLengths code total (total + 1) [] s
  let literals := lengths.take literalCount
  if literals[endSymbol]? == some 0 then throw (.broken .noBlockEnd)
  let literals := Code.ofLengths literals
  if !literals.isSound then throw (.broken .literalCodes)
  let distances := Code.ofLengths (lengths.drop literalCount)
  if !distances.isSound then throw (.broken .distanceCodes)
  return ((literals, distances), s)

/-- One block behind its head. -/
def inflateBlock (kind : Nat) (out : List Nat) (s : Source) : Progress :=
  match kind with
  | 0 => inflateStored out s
  | 1 => inflateSymbols fixedLiterals fixedDistances (s.size + 1) out s
  | 2 =>
    match readCodes s with
    | .error stop => (out, .error stop)
    | .ok ((literals, distances), s) => inflateSymbols literals distances (s.size + 1) out s
  | _ => (out, .error (.broken .blockKind))

/-- All blocks up to the last one. Each one takes three bits, which is fuel enough. -/
def inflateBlocks : Nat → List Nat → Source → Progress
  | 0, out, _ => (out, .error .short)
  | fuel + 1, out, s =>
    match (do
      let (last, s) ← s.bits 1
      let (kind, s) ← s.bits 2
      return ((last, kind), s) : Except Stop ((Nat × Nat) × Source)) with
    | .error stop => (out, .error stop)
    | .ok ((last, kind), s) =>
      match inflateBlock kind out s with
      | (out, .ok s) => if last == 1 then (out, .ok s) else inflateBlocks fuel out s
      | stopped => stopped

/-- Inflates some bytes. -/
def inflate (bytes : List Nat) : Progress :=
  inflateBlocks (8 * bytes.length + 1) [] (.ofBytes bytes)

end Storyboard.Compression

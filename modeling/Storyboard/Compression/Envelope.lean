import Storyboard.Compression.Inflate

/-!
# Envelopes

Compressed data comes bare or in one of two envelopes, each with a head and with sums
at the end. Data that breaks off gives the output up to there, and what follows the end
is left alone.
-/
namespace Storyboard.Compression

/-- The sum of the bytes and the sum of all those sums, both modulo a prime. -/
def adler32 (bytes : List Nat) : Nat :=
  let (a, b) := bytes.foldl (fun (a, b) byte =>
    let a := (a + byte) % 65521
    (a, (b + a) % 65521)) (1, 0)
  b * 65536 + a

/-- The remainder after so many further zero bits. -/
def crcShift : Nat → Nat → Nat
  | 0, r => r
  | n + 1, r => crcShift n (if r % 2 == 1 then Nat.xor (r / 2) 0xEDB88320 else r / 2)

/-- The remainder of the bytes as a polynomial of single bits. -/
def crc32 (bytes : List Nat) : Nat :=
  Nat.xor 0xFFFFFFFF <|
    bytes.foldl (fun r byte => crcShift 8 (Nat.xor r byte)) 0xFFFFFFFF

def Fault.message : Fault → String
  | .header => "incorrect header check"
  | .method => "unknown compression method"
  | .window => "invalid window size"
  | .flags => "unknown header flags set"
  | .headerCheck => "header crc mismatch"
  | .needsDictionary => ""
  | .blockKind => "invalid block type"
  | .storedLengths => "invalid stored block lengths"
  | .tooManySymbols => "too many length or distance symbols"
  | .codeLengths => "invalid code lengths set"
  | .lengthRepeat => "invalid bit length repeat"
  | .noBlockEnd => "invalid code -- missing end-of-block"
  | .literalCodes => "invalid literal/lengths set"
  | .distanceCodes => "invalid distances set"
  | .literalCode => "invalid literal/length code"
  | .distanceCode => "invalid distance code"
  | .distance => "invalid distance too far back"
  | .dataCheck => "incorrect data check"
  | .lengthCheck => "incorrect length check"

/-- A fault as it is reported, with its number. -/
def Fault.report : Fault → String
  | .needsDictionary => "Error 2 while decompressing data"
  | fault => "Error -3 while decompressing data: " ++ fault.message

/-- What came out, unless the data is wrong. The check follows the last block. -/
def settle (progress : Progress) (check : List Nat → List Nat → Except Stop Unit) :
    Except Fault (List Nat) :=
  let (out, outcome) := progress
  let out := out.reverse
  match outcome with
  | .error (.broken fault) => .error fault
  | .error .short => .ok out
  | .ok s =>
    match check out s.rest with
    | .error (.broken fault) => .error fault
    | _ => .ok out

/-- A number of four bytes, lowest byte first. -/
def lowFirst : List Nat → Except Stop (Nat × List Nat)
  | a :: b :: c :: d :: rest => .ok (a + 0x100 * b + 0x10000 * c + 0x1000000 * d, rest)
  | _ => .error .short

/-- Bare data. -/
def bare (bytes : List Nat) : Except Fault (List Nat) :=
  settle (inflate bytes) fun _ _ => .ok ()

/-- The head has the method, the size of the window, a flag for a dictionary that both
sides know, and is a multiple of 31. -/
def smallEnvelope (bytes : List Nat) : Except Fault (List Nat) :=
  match bytes with
  | a :: b :: rest =>
    if (a * 256 + b) % 31 != 0 then .error .header
    else if a % 16 != 8 then .error .method
    else if 7 < a / 16 then .error .window
    else if b / 32 % 2 == 1 then
      if 4 ≤ rest.length then .error .needsDictionary else .ok []
    else settle (inflate rest) fun out tail =>
      match tail with
      | a :: b :: c :: d :: _ =>
        if a * 0x1000000 + b * 0x10000 + c * 0x100 + d == adler32 out then .ok ()
        else .error (.broken .dataCheck)
      | _ => .error .short
  | _ => .ok []

/-- Drops a text that ends with a zero byte. -/
def dropText : List Nat → Except Stop (List Nat)
  | [] => .error .short
  | 0 :: rest => .ok rest
  | _ :: rest => dropText rest

/-- Drops so many bytes. -/
def dropBytes (count : Nat) (bytes : List Nat) : Except Stop (List Nat) :=
  if bytes.length < count then .error .short else .ok (bytes.drop count)

/-- The optional parts of a head, by its flags: further data, a name, a comment, and a
sum over all of the head. -/
def dropOptions (flags : Nat) (whole bytes : List Nat) : Except Stop (List Nat) := do
  let bytes ← if flags / 4 % 2 == 1 then
      match bytes with
      | a :: b :: rest => dropBytes (a + 256 * b) rest
      | _ => throw .short
    else pure bytes
  let bytes ← if flags / 8 % 2 == 1 then dropText bytes else pure bytes
  let bytes ← if flags / 16 % 2 == 1 then dropText bytes else pure bytes
  if flags / 2 % 2 == 1 then
    match bytes with
    | a :: b :: rest =>
      let head := whole.take (whole.length - bytes.length)
      if a + 256 * b == crc32 head % 65536 then return rest
      else throw (.broken .headerCheck)
    | _ => throw .short
  else return bytes

/-- What stands behind the head of the large envelope. -/
def dropHead (bytes : List Nat) : Except Stop (List Nat) := do
  match bytes with
  | a :: b :: rest =>
    if a != 0x1F || b != 0x8B then throw (.broken .header)
    match rest with
    | method :: flags :: rest =>
      if method != 8 then throw (.broken .method)
      if 32 ≤ flags then throw (.broken .flags)
      dropOptions flags bytes (← dropBytes 6 rest)
    | _ => throw .short
  | _ => throw .short

/-- The large envelope ends with a sum over the output and with its length. -/
def largeEnvelope (bytes : List Nat) : Except Fault (List Nat) :=
  match dropHead bytes with
  | .error (.broken fault) => .error fault
  | .error .short => .ok []
  | .ok rest => settle (inflate rest) fun out tail => do
    let (sum, tail) ← lowFirst tail
    if sum != crc32 out then throw (.broken .dataCheck)
    let (length, _) ← lowFirst tail
    if length != out.length % 0x100000000 then throw (.broken .lengthCheck)

end Storyboard.Compression

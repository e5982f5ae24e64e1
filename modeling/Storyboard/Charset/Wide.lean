import Storyboard.Charset.Decoding

/-!
# Units of two and four bytes

A character is a unit of four bytes, or one or two units of two bytes; two units are a
high and a low surrogate. The bytes of a unit come in one of two orders.
-/
namespace Storyboard.Charset

/-- Which byte of a unit comes first. -/
inductive ByteOrder where
  | little
  | big
  deriving DecidableEq, Repr

def ByteOrder.pair (order : ByteOrder) (a b : Nat) : Nat :=
  match order with
  | .little => a + b * 256
  | .big => a * 256 + b

def isHighSurrogate (n : Nat) : Bool := 0xD800 ≤ n && n < 0xDC00

def isLowSurrogate (n : Nat) : Bool := 0xDC00 ≤ n && n < 0xE000

def joinSurrogates (high low : Nat) : Nat := 0x10000 + (high - 0xD800) * 0x400 + (low - 0xDC00)

def twoByteUnits (order : ByteOrder) : List Nat → Step
  | a :: b :: rest =>
    let unit := order.pair a b
    if isLowSurrogate unit then .fault 2
    else if isHighSurrogate unit then
      match rest with
      | c :: d :: _ =>
        let next := order.pair c d
        if isLowSurrogate next then .char (joinSurrogates unit next) 4 else .fault 2
      | rest => .fault (rest.length + 2)
    else .char unit 2
  | bytes => .cut bytes

def fourByteUnits (order : ByteOrder) : List Nat → Step
  | a :: b :: c :: d :: _ =>
    let code := match order with
      | .little => order.pair a b + order.pair c d * 0x10000
      | .big => order.pair a b * 0x10000 + order.pair c d
    if (0xD800 ≤ code && code < 0xE000) || 0x10FFFF < code then .fault 4 else .char code 4
  | bytes => .cut bytes

/-- The byte order a mark at the beginning gives, with what follows the mark. -/
def twoByteMark? : List Nat → Option (ByteOrder × List Nat)
  | 0xFF :: 0xFE :: rest => some (.little, rest)
  | 0xFE :: 0xFF :: rest => some (.big, rest)
  | _ => none

def fourByteMark? : List Nat → Option (ByteOrder × List Nat)
  | 0xFF :: 0xFE :: 0 :: 0 :: rest => some (.little, rest)
  | 0 :: 0 :: 0xFE :: 0xFF :: rest => some (.big, rest)
  | _ => none

end Storyboard.Charset

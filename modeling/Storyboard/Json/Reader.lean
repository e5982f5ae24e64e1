import Storyboard.Json.Basic

/-!
# Reading JSON text

Beside the standard grammar the reader takes `NaN`, `Infinity` and `-Infinity`.
A fault names what was expected and where; the place is kept as the unread rest
of the text, from which offset, line and column follow. Nesting is bounded, and
so is the number of digits of a whole number.

Texts are made of characters, and half of a surrogate pair is none. A text that
escapes one half without the other is not read, and the outcome says so: it is
neither accepted nor malformed.
-/
namespace Storyboard.Json

/-- What is wrong with a text. -/
inductive Fault where
  | expectedValue
  | expectedName
  | expectedColon
  | expectedComma
  | unterminatedString
  | controlCharacter
  | unknownEscape
  | unicodeEscape
  | extraData
  | byteOrderMark
  deriving DecidableEq, Repr

def Fault.message : Fault → String
  | .expectedValue => "Expecting value"
  | .expectedName => "Expecting property name enclosed in double quotes"
  | .expectedColon => "Expecting ':' delimiter"
  | .expectedComma => "Expecting ',' delimiter"
  | .unterminatedString => "Unterminated string starting at"
  | .controlCharacter => "Invalid control character at"
  | .unknownEscape => "Invalid \\escape"
  | .unicodeEscape => "Invalid \\uXXXX escape"
  | .extraData => "Extra data"
  | .byteOrderMark => "Unexpected UTF-8 BOM (decode using utf-8-sig)"

/-- Why a text could not be read. -/
inductive ReadError where
  | malformed (fault : Fault) (rest : List Char)
  | tooDeep
  | tooManyDigits (count : Nat)
  /-- An escape stands for one half of a pair without the other. -/
  | unpaired
  deriving DecidableEq, Repr

/-- The bounds under which a text is read. -/
structure Bounds where
  depth : Nat
  digits : Nat

abbrev Parse (α : Type) := List Char → Except ReadError (α × List Char)

def malformed {α : Type} (fault : Fault) (rest : List Char) : Except ReadError α :=
  .error (.malformed fault rest)

def isGap (c : Char) : Bool := c == ' ' || c == '\t' || c == '\n' || c == '\r'

def skipGap (s : List Char) : List Char := s.dropWhile isGap

def hexValue? (c : Char) : Option Nat :=
  let n := c.toNat
  if 48 ≤ n && n ≤ 57 then some (n - 48)
  else if 97 ≤ n && n ≤ 102 then some (n - 87)
  else if 65 ≤ n && n ≤ 70 then some (n - 55)
  else none

/-- Four hexadecimal digits. -/
def unit? (a b c d : Char) : Option Nat := do
  let a ← hexValue? a
  let b ← hexValue? b
  let c ← hexValue? c
  let d ← hexValue? d
  pure (((a * 16 + b) * 16 + c) * 16 + d)

def isHighUnit (n : Nat) : Bool := 0xD800 ≤ n && n < 0xDC00

def isLowUnit (n : Nat) : Bool := 0xDC00 ≤ n && n < 0xE000

/-- Half of a pair, which is no character by itself. -/
def isHalf (n : Nat) : Bool := isHighUnit n || isLowUnit n

def pairChar (high low : Nat) : Char :=
  Char.ofNat (0x10000 + (high - 0xD800) * 0x400 + (low - 0xDC00))

def escape? : Char → Option Char
  | '"' => some '"'
  | '\\' => some '\\'
  | '/' => some '/'
  | 'b' => some (Char.ofNat 8)
  | 'f' => some (Char.ofNat 12)
  | 'n' => some '\n'
  | 'r' => some '\r'
  | 't' => some '\t'
  | _ => none

/-- The rest of a string after its opening quote. `opening` is the text from that
quote on, `done` what was read so far, last character first. A unicode escape
must be followed by at least one character more. -/
def stringBody (opening : List Char) (done : List Char) : Parse String
  | [] => malformed .unterminatedString opening
  | '"' :: rest => .ok (String.ofList done.reverse, rest)
  | ['\\'] => malformed .unterminatedString opening
  | '\\' :: 'u' :: a :: b :: c :: d :: '\\' :: 'u' :: e :: f :: g :: h :: next :: rest =>
    match unit? a b c d with
    | none => malformed .unicodeEscape
        ('u' :: a :: b :: c :: d :: '\\' :: 'u' :: e :: f :: g :: h :: next :: rest)
    | some high =>
      if isHighUnit high then
        match unit? e f g h with
        | none => malformed .unicodeEscape ('u' :: e :: f :: g :: h :: next :: rest)
        | some low =>
          if isLowUnit low then stringBody opening (pairChar high low :: done) (next :: rest)
          else .error .unpaired
      else if isHalf high then .error .unpaired
      else stringBody opening (Char.ofNat high :: done)
          ('\\' :: 'u' :: e :: f :: g :: h :: next :: rest)
  | '\\' :: 'u' :: a :: b :: c :: d :: next :: rest =>
    match unit? a b c d with
    | none => malformed .unicodeEscape ('u' :: a :: b :: c :: d :: next :: rest)
    | some n =>
      if isHalf n then .error .unpaired
      else stringBody opening (Char.ofNat n :: done) (next :: rest)
  | '\\' :: 'u' :: rest => malformed .unicodeEscape ('u' :: rest)
  | '\\' :: e :: rest =>
    match escape? e with
    | some c => stringBody opening (c :: done) rest
    | none => malformed .unknownEscape ('\\' :: e :: rest)
  | c :: rest =>
    if c.toNat < 0x20 then malformed .controlCharacter (c :: rest)
    else stringBody opening (c :: done) rest

def isAsciiDigit (c : Char) : Bool := 48 ≤ c.toNat && c.toNat ≤ 57

def digitsValue (ds : List Char) : Nat := ds.foldl (fun n c => n * 10 + (c.toNat - 48)) 0

/-- A fraction: a point with at least one digit behind it. -/
def fraction : List Char → List Char × List Char
  | '.' :: rest =>
    let ds := rest.takeWhile isAsciiDigit
    if ds.isEmpty then ([], '.' :: rest) else (ds, rest.dropWhile isAsciiDigit)
  | s => ([], s)

/-- An exponent with at least one digit, or nothing. -/
def exponent (s : List Char) : Option Int × List Char :=
  match s with
  | mark :: rest =>
    if mark == 'e' || mark == 'E' then
      let (negative, body) := match rest with
        | '-' :: body => (true, body)
        | '+' :: body => (false, body)
        | body => (false, body)
      let ds := body.takeWhile isAsciiDigit
      if ds.isEmpty then (none, s)
      else
        let n : Int := digitsValue ds
        (some (if negative then -n else n), body.dropWhile isAsciiDigit)
    else (none, s)
  | [] => (none, s)

/-- The digits before the point: a single zero, or digits that start with another. -/
def wholeDigits : List Char → List Char × List Char
  | '0' :: rest => (['0'], rest)
  | s => (s.takeWhile isAsciiDigit, s.dropWhile isAsciiDigit)

/-- A number; `start` is the text from its sign on. -/
def number (bounds : Bounds) (start : List Char) : Except ReadError (Json × List Char) :=
  let (negative, body) := match start with
    | '-' :: rest => (true, rest)
    | s => (false, s)
  let (whole, rest) := wholeDigits body
  if whole.isEmpty then malformed .expectedValue start
  else
    let (decimals, rest) := fraction rest
    let (power, rest) := exponent rest
    if decimals.isEmpty && power.isNone then
      if bounds.digits < whole.length then .error (.tooManyDigits whole.length)
      else
        let n : Int := digitsValue whole
        .ok (.int (if negative then -n else n), rest)
    else
      let scale : Int := power.getD 0 - decimals.length
      .ok (.float (.ofDecimal negative (digitsValue (whole ++ decimals)) scale), rest)

/-- The elements of an array after its bracket, at least one. -/
def elements (item : Parse Json) : Nat → Parse (List Json)
  | 0, s => malformed .expectedValue s
  | fuel + 1, s => do
    let (v, rest) ← item s
    match skipGap rest with
    | ']' :: rest => .ok ([v], rest)
    | ',' :: rest =>
      let (vs, rest) ← elements item fuel (skipGap rest)
      .ok (v :: vs, rest)
    | rest => malformed .expectedComma rest

/-- The members of an object after its brace, at least one. -/
def members (item : Parse Json) : Nat → Parse (List (String × Json))
  | 0, s => malformed .expectedName s
  | fuel + 1, s =>
    match s with
    | '"' :: body => do
      let (k, rest) ← stringBody s [] body
      match skipGap rest with
      | ':' :: rest =>
        let (v, rest) ← item (skipGap rest)
        match skipGap rest with
        | '\x7d' :: rest => .ok ([(k, v)], rest)
        | ',' :: rest =>
          let (more, rest) ← members item fuel (skipGap rest)
          .ok ((k, v) :: more, rest)
        | rest => malformed .expectedComma rest
      | rest => malformed .expectedColon rest
    | _ => malformed .expectedName s

/-- A value that is no container. -/
def scalar (bounds : Bounds) (s : List Char) : Except ReadError (Json × List Char) :=
  match s with
  | '"' :: body => (stringBody s [] body).map fun (t, rest) => (.str t, rest)
  | 'n' :: 'u' :: 'l' :: 'l' :: rest => .ok (.null, rest)
  | 't' :: 'r' :: 'u' :: 'e' :: rest => .ok (.bool true, rest)
  | 'f' :: 'a' :: 'l' :: 's' :: 'e' :: rest => .ok (.bool false, rest)
  | 'N' :: 'a' :: 'N' :: rest => .ok (.float (.nan 0), rest)
  | 'I' :: 'n' :: 'f' :: 'i' :: 'n' :: 'i' :: 't' :: 'y' :: rest =>
    .ok (.float (.infinity false), rest)
  | '-' :: 'I' :: 'n' :: 'f' :: 'i' :: 'n' :: 'i' :: 't' :: 'y' :: rest =>
    .ok (.float (.infinity true), rest)
  | _ => number bounds s

/-- A value. `fuel` bounds the length of the text, the next argument the containers
one inside the other. -/
def value (bounds : Bounds) (fuel : Nat) : Nat → Parse Json
  | 0, s =>
    match s with
    | '[' :: _ => .error .tooDeep
    | '\x7b' :: _ => .error .tooDeep
    | _ => scalar bounds s
  | depth + 1, s =>
    match s with
    | '[' :: rest =>
      match skipGap rest with
      | ']' :: rest => .ok (.arr [], rest)
      | rest => do
        let (vs, rest) ← elements (value bounds fuel depth) fuel rest
        .ok (.arr vs, rest)
    | '\x7b' :: rest =>
      match skipGap rest with
      | '\x7d' :: rest => .ok (.obj [], rest)
      | rest => do
        let (ms, rest) ← members (value bounds fuel depth) fuel rest
        .ok (.obj (Assoc.ofPairs ms), rest)
    | _ => scalar bounds s

/-- A whole text: one value with nothing but gaps around it. -/
def read (bounds : Bounds) (text : String) : Except ReadError Json := do
  let s := text.toList
  match s with
  | c :: _ => if c.toNat == 0xFEFF then malformed .byteOrderMark s else pure ()
  | [] => pure ()
  let (v, rest) ← value bounds (s.length + 1) bounds.depth (skipGap s)
  match skipGap rest with
  | [] => .ok v
  | rest => malformed .extraData rest

/-- A place in a text, counted in characters from zero. -/
structure Place where
  offset : Nat
  line : Nat
  column : Nat
  deriving DecidableEq, Repr

/-- The place where `rest` begins in `text`. -/
def placeOf (text : String) (rest : List Char) : Place :=
  let s := text.toList
  let offset := s.length - rest.length
  let before := s.take offset
  let tail := before.reverse.takeWhile (· != '\n')
  ⟨offset, before.count '\n' + 1, tail.length + 1⟩

end Storyboard.Json

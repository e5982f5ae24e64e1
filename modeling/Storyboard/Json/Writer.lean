import Storyboard.Json.Basic

/-!
# Writing JSON text

One writer for every text the library makes. A `Style` fixes the separators,
whether characters outside ASCII are escaped, and the indentation; with an
indentation each item stands on a line of its own, an empty container stays on
one line.
-/
namespace Storyboard.Json

/-- The decisions of a JSON text. -/
structure Style where
  ascii : Bool
  itemSeparator : String
  nameSeparator : String
  indent : Option Nat

/-- One line, blanks behind the separators. -/
def Style.plain (ascii : Bool) : Style := ⟨ascii, ", ", ": ", none⟩

/-- One line without blanks. -/
def Style.compact : Style := ⟨false, ",", ":", none⟩

/-- One item a line, or one line when no width is given. -/
def Style.indented (ascii : Bool) : Option Nat → Style
  | none => .plain ascii
  | some n => ⟨ascii, ",", ": ", some n⟩

/-- The layout of numbers in JSON text. -/
def numberLayout : Layout := ⟨"NaN", "Infinity"⟩

def hexDigit (n : Nat) : Char := Char.ofNat (if n < 10 then 48 + n else 87 + n)

/-- A number below `16^width` in lower-case hexadecimal digits. -/
def hexDigits : Nat → Nat → List Char
  | 0, _ => []
  | width + 1, n => hexDigits width (n / 16) ++ [hexDigit (n % 16)]

def unitEscape (n : Nat) : List Char := '\\' :: 'u' :: hexDigits 4 n

def escapeChar (ascii : Bool) (c : Char) : List Char :=
  let n := c.toNat
  if c == '"' then ['\\', '"']
  else if c == '\\' then ['\\', '\\']
  else if c == '\n' then ['\\', 'n']
  else if c == '\r' then ['\\', 'r']
  else if c == '\t' then ['\\', 't']
  else if n == 8 then ['\\', 'b']
  else if n == 12 then ['\\', 'f']
  else if n < 0x20 then unitEscape n
  else if !ascii || n < 0x7F then [c]
  else if n < 0x10000 then unitEscape n
  else unitEscape (0xD800 + (n - 0x10000) / 0x400) ++ unitEscape (0xDC00 + (n - 0x10000) % 0x400)

def quote (ascii : Bool) (s : String) : String :=
  String.ofList ('"' :: s.toList.flatMap (escapeChar ascii) ++ ['"'])

/-- The break in front of an item at a depth of nesting. -/
def Style.lineBreak (style : Style) (depth : Nat) : String :=
  match style.indent with
  | none => ""
  | some width => "\n" ++ String.ofList (List.replicate (width * depth) ' ')

mutual

def writeAt (style : Style) (depth : Nat) : Json → String
  | .null => "null"
  | .bool true => "true"
  | .bool false => "false"
  | .int n => toString n
  | .float x => x.render numberLayout
  | .str s => quote style.ascii s
  | .arr [] => "[]"
  | .arr (v :: rest) =>
    "[" ++ style.lineBreak (depth + 1) ++ writeAt style (depth + 1) v ++
      writeItems style (depth + 1) rest ++ style.lineBreak depth ++ "]"
  | .obj [] => "\x7b\x7d"
  | .obj ((k, v) :: rest) =>
    "\x7b" ++ style.lineBreak (depth + 1) ++ quote style.ascii k ++ style.nameSeparator ++
      writeAt style (depth + 1) v ++ writeFields style (depth + 1) rest ++
      style.lineBreak depth ++ "\x7d"

def writeItems (style : Style) (depth : Nat) : List Json → String
  | [] => ""
  | v :: rest =>
    style.itemSeparator ++ style.lineBreak depth ++ writeAt style depth v ++
      writeItems style depth rest

def writeFields (style : Style) (depth : Nat) : List (String × Json) → String
  | [] => ""
  | (k, v) :: rest =>
    style.itemSeparator ++ style.lineBreak depth ++ quote style.ascii k ++ style.nameSeparator ++
      writeAt style depth v ++ writeFields style depth rest

end

def write (style : Style) (v : Json) : String := writeAt style 0 v

mutual

/-- Whether every number of the value is finite. -/
def allFinite : Json → Bool
  | .float x => x.isFinite
  | .arr items => allFiniteItems items
  | .obj fields => allFiniteFields fields
  | _ => true

def allFiniteItems : List Json → Bool
  | [] => true
  | v :: rest => allFinite v && allFiniteItems rest

def allFiniteFields : List (String × Json) → Bool
  | [] => true
  | (_, v) :: rest => allFinite v && allFiniteFields rest

end

end Storyboard.Json

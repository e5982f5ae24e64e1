import Storyboard.Json.Writer
import Storyboard.Text.Printable

/-!
# Values as shown in messages

`display` is the text of a value: a string is its own text, anything else is
shown as it would be inside a list. `inspect` is that inner form, with strings
in quotes: single ones, unless the text holds a single quote and no double one.
Ids and filter operands compare by `display`.
-/
namespace Storyboard.Json

/-- The layout of numbers in messages. -/
def messageLayout : Layout := ⟨"nan", "inf"⟩

def inspectChar (quoteMark : Char) (c : Char) : List Char :=
  let n := c.toNat
  if c == quoteMark || c == '\\' then ['\\', c]
  else if c == '\t' then ['\\', 't']
  else if c == '\n' then ['\\', 'n']
  else if c == '\r' then ['\\', 'r']
  else if n < 0x20 || n == 0x7F then '\\' :: 'x' :: hexDigits 2 n
  else if n < 0x7F || Text.isPrintable c then [c]
  else if n < 0x100 then '\\' :: 'x' :: hexDigits 2 n
  else if n < 0x10000 then '\\' :: 'u' :: hexDigits 4 n
  else '\\' :: 'U' :: hexDigits 8 n

def inspectString (s : String) : String :=
  let cs := s.toList
  let quoteMark := if cs.contains '\'' && !cs.contains '"' then '"' else '\''
  String.ofList (quoteMark :: cs.flatMap (inspectChar quoteMark) ++ [quoteMark])

mutual

def inspect : Json → String
  | .null => "None"
  | .bool true => "True"
  | .bool false => "False"
  | .int n => toString n
  | .float x => x.render messageLayout
  | .str s => inspectString s
  | .arr [] => "[]"
  | .arr (v :: rest) => "[" ++ inspect v ++ inspectItems rest ++ "]"
  | .obj [] => "\x7b\x7d"
  | .obj ((k, v) :: rest) =>
    "\x7b" ++ inspectString k ++ ": " ++ inspect v ++ inspectFields rest ++ "\x7d"

def inspectItems : List Json → String
  | [] => ""
  | v :: rest => ", " ++ inspect v ++ inspectItems rest

def inspectFields : List (String × Json) → String
  | [] => ""
  | (k, v) :: rest => ", " ++ inspectString k ++ ": " ++ inspect v ++ inspectFields rest

end

/-- The text of a value. -/
def display : Json → String
  | .str s => s
  | v => inspect v

/-- A list of names as shown in messages. -/
def inspectNames (names : List String) : String := inspect (.arr (names.map .str))

end Storyboard.Json

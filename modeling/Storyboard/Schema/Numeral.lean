import Storyboard.Number.Numeral
import Storyboard.Schema.Field

/-!
# Numbers given as text

Settings arrive as text. A whole number may have white space around it, a sign,
zeros in front, low lines between digits, and a fraction that is all zeros.
-/
namespace Storyboard

namespace Numeral

/-- Digits without zeros in front, at most `digitLimit` of them. -/
def plainDigits (negative : Bool) (ds : List Char) : Check Int :=
  if ds.isEmpty || !ds.all isPlainDigit || (ds.length != 1 && ds.head? == some '0') then
    .fail .unparsableWhole
  else if digitLimit < ds.length then .fail .wholeTooLarge
  else .ok (if negative then -(plainValue ds : Int) else plainValue ds)

/-- Without a fraction that is all zeros; a point alone is no fraction. -/
def dropZeroFraction (s : List Char) : List Char :=
  match s.dropWhile (· != '.') with
  | '.' :: '0' :: zeros => if zeros.all (· == '0') then s.takeWhile (· != '.') else s
  | _ => s

/-- Without the zeros in front, and the low lines between them. -/
def dropLeadingZeros (s : List Char) : List Char :=
  match s with
  | '0' :: rest =>
    match rest.dropWhile (fun c => c == '0' || c == '_') with
    | [] => if s.getLast? == some '_' then ['_'] else ['0']
    | rest => rest
  | s => s

/-- Without the low lines, where each stands alone between other characters. -/
def dropLowLines? (s : List Char) : Option (List Char) :=
  let rec doubled : List Char → Bool
    | '_' :: '_' :: _ => true
    | _ :: rest => doubled rest
    | [] => false
  if s.head? == some '_' || s.getLast? == some '_' || doubled s then none
  else some (s.filter (· != '_'))

/-- Whether a number is negative, and what follows its sign. -/
def takeSign : List Char → Bool × List Char
  | '+' :: rest => (false, rest)
  | '-' :: rest => (true, rest)
  | s => (false, s)

/-- A whole number as settings give it. -/
def wholeOfText (s : List Char) : Check Int :=
  let (negative, unsigned) := takeSign (Text.trimBoth Text.isWhiteSpace s)
  match dropLowLines? (dropLeadingZeros (dropZeroFraction unsigned)) with
  | some digits => plainDigits negative digits
  | none => .fail .unparsableWhole

/-- A number as settings give it; low lines are dropped where nothing else helps. -/
def realOfText (s : List Char) : Check Binary64 :=
  match parseFloat? s with
  | some x => .ok x
  | none =>
    let joined := (dropLowLines? s).filter fun t => !t.any Text.isWhiteSpace
    match joined.bind parseFloat? with
    | some x => .ok x
    | none => .fail .unparsableNumber

end Numeral

namespace Read

/-- A whole number, as a number or as text. -/
def wholeNumeral : Json → Check Int
  | .str s => Numeral.wholeOfText s.toList
  | v => whole v

/-- A number, as a number or as text; truth values count as 0 and 1. -/
def realNumeral : Json → Check Binary64
  | .str s => Numeral.realOfText s.toList
  | .float x => .ok x
  | .bool b => .ok (.ofInt (if b then 1 else 0))
  | .int n =>
    let x := Binary64.ofInt n
    if x.isFinite then .ok x else .fail .notNumber
  | _ => .fail .notNumber

end Read

end Storyboard

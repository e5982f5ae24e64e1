import Storyboard.Charset.Basic
import Storyboard.Http.Percent
import Storyboard.Number.Numeral
import Storyboard.Text.Blank

/-!
# Parameters of media types

A media type can name a character set in a parameter. The value of a parameter may be
quoted, may be given in numbered parts, and may begin with the character set and the
language it is written in itself; then it is percent-encoded.
-/
namespace Storyboard.Http

/-- Cuts at semicolons that no quotes enclose. `piece` is the part that is being read,
last character first. -/
def cutParameters (piece : List Char) (quoted : Bool) : List Char → List (List Char)
  | [] => [piece.reverse]
  | c :: rest =>
    if c == ';' && !quoted then piece.reverse :: cutParameters [] false rest
    else
      let turns := c == '"' && piece.head? != some '\\'
      cutParameters (c :: piece) (if turns then !quoted else quoted) rest

/-- Name and value of a parameter. Only a name with a value is taken in lower case. -/
def parameterPair (s : List Char) : List Char × List Char :=
  let name := Text.strip (s.takeWhile (· != '='))
  match s.dropWhile (· != '=') with
  | _ :: value => (name.map Char.toLower, Text.strip value)
  | [] => (name, [])

/-- A value without its quotes. -/
def unquoted (s : List Char) : List Char :=
  let ends (first last : Char) : Bool :=
    2 ≤ s.length && s.head? == some first && s.getLast? == some last
  if ends '"' '"' || ends '<' '>' then s.tail.dropLast else s

/-- The number and the encoding of a part of a parameter, by what follows the name and
an asterisk. -/
def partMark? (s : List Char) : Option (Option Nat × Bool) :=
  let digits := s.takeWhile Numeral.isPlainDigit
  match digits, s.drop digits.length with
  | [], [] => some (none, true)
  | [], _ => none
  | digits, [] => some (some (Numeral.plainValue digits), false)
  | digits, ['*'] => some (some (Numeral.plainValue digits), true)
  | _, _ => none

/-- One numbered part of the character set's name. -/
structure NamePart where
  number : Option Nat
  value : List Char
  encoded : Bool

def charsetWord : List Char := "charset".toList

/-- The part of the character set's name that a parameter gives. -/
def namePart? (name value : List Char) : Option NamePart :=
  if (charsetWord ++ ['*']).isPrefixOf name then
    (partMark? (name.drop (charsetWord.length + 1))).map fun (number, encoded) =>
      ⟨number, unquoted value, encoded⟩
  else none

/-- Percent-encoded bytes as the characters of their numbers. -/
def byteText (s : List Char) : List Char := (encodedBytes s).map Char.ofNat

/-- Cuts at an apostrophe. -/
def cutQuote? (s : List Char) : Option (List Char × List Char) :=
  match s.dropWhile (· != '\'') with
  | _ :: rest => some (s.takeWhile (· != '\''), rest)
  | [] => none

/-- A value that may say what it is written in; it is read in that character set where
this is possible. -/
def readExtended (s : List Char) : List Char :=
  match (cutQuote? s).bind fun (charset, rest) =>
      (cutQuote? rest).map fun (_, value) => (charset, value) with
  | none => s
  | some (charset, value) =>
    let name := if charset.isEmpty then "us-ascii" else String.ofList charset
    let bytes := value.map Char.toNat
    match (Charset.ofName? name).bind fun charset => (charset.decode bytes).toOption with
    | some decoded => ((Charset.strictText? decoded).map String.toList).getD value
    | none => value

/-- The order of parts: by number, then by value, then those that are encoded. -/
def NamePart.before (a b : NamePart) : Bool :=
  let m := a.number.getD 0
  let n := b.number.getD 0
  if m != n then m < n
  else if a.value != b.value then a.value < b.value
  else !a.encoded || b.encoded

/-- The name that the parts give together. -/
def joinParts (parts : List NamePart) : List Char :=
  let parts := parts.mergeSort NamePart.before
  let value := parts.flatMap fun p => if p.encoded then byteText p.value else p.value
  if parts.any (·.encoded) then readExtended value else value

/-- The name of the character set of a media type. Plain parameters count first, and
the media type itself may stand in the place of one. -/
def charsetName? (mediaType : String) : Option String :=
  let params := (cutParameters [] false mediaType.toList).map parameterPair
  let isPart (p : List Char × List Char) : Bool := (namePart? p.1 p.2).isSome
  let plain := params.take 1 ++ (params.drop 1).filter fun p => !isPart p
  let parts := (params.drop 1).filterMap fun p => namePart? p.1 p.2
  let named := plain.find? fun p => p.1.map Char.toLower == charsetWord
  let found := match named, parts with
    | some (_, value), _ => some (unquoted value)
    | none, [] => none
    | none, parts => some (joinParts parts)
  (found.filter fun name => name.all fun c => c.toNat < 128).map String.ofList

end Storyboard.Http

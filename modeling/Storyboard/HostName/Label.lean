import Storyboard.HostName.Direction
import Storyboard.HostName.Joining
import Storyboard.HostName.Permitted
import Storyboard.HostName.Punycode
import Storyboard.Json.Display
import Storyboard.Text.Composition
import Storyboard.Text.Mark
import Storyboard.Text.Ranges

/-!
# Host names and their labels

What may stand between the dots of a host name. A label beyond ASCII has a form in
ASCII, which starts with `xn--`. A host name is a row of labels; any of four full stops
parts them. The empty label at the end of a name is kept as a dot.
-/
namespace Storyboard.HostName

open Storyboard.Text (Ranges)

def greek : Ranges :=
  [(0x370, 0x373), (0x375, 0x377), (0x37A, 0x37D), (0x37F, 0x37F), (0x384, 0x384), (0x386, 0x386),
   (0x388, 0x38A), (0x38C, 0x38C), (0x38E, 0x3A1), (0x3A3, 0x3E1), (0x3F0, 0x3FF), (0x1D26, 0x1D2A),
   (0x1D5D, 0x1D61), (0x1D66, 0x1D6A), (0x1DBF, 0x1DBF), (0x1F00, 0x1F15), (0x1F18, 0x1F1D),
   (0x1F20, 0x1F45), (0x1F48, 0x1F4D), (0x1F50, 0x1F57), (0x1F59, 0x1F59), (0x1F5B, 0x1F5B),
   (0x1F5D, 0x1F5D), (0x1F5F, 0x1F7D), (0x1F80, 0x1FB4), (0x1FB6, 0x1FC4), (0x1FC6, 0x1FD3),
   (0x1FD6, 0x1FDB), (0x1FDD, 0x1FEF), (0x1FF2, 0x1FF4), (0x1FF6, 0x1FFE), (0x2126, 0x2126),
   (0xAB65, 0xAB65), (0x10140, 0x1018E), (0x101A0, 0x101A0), (0x1D200, 0x1D245)]

def hebrew : Ranges :=
  [(0x591, 0x5C7), (0x5D0, 0x5EA), (0x5EF, 0x5F4), (0xFB1D, 0xFB36), (0xFB38, 0xFB3C),
   (0xFB3E, 0xFB3E), (0xFB40, 0xFB41), (0xFB43, 0xFB44), (0xFB46, 0xFB4F)]

/-- The scripts of Japanese. -/
def japanese : Ranges :=
  [(0x2E80, 0x2E99), (0x2E9B, 0x2EF3), (0x2F00, 0x2FD5), (0x3005, 0x3005), (0x3007, 0x3007),
   (0x3021, 0x3029), (0x3038, 0x303B), (0x3041, 0x3096), (0x309D, 0x309F), (0x30A1, 0x30FA),
   (0x30FD, 0x30FF), (0x31F0, 0x31FF), (0x32D0, 0x32FE), (0x3300, 0x3357), (0x3400, 0x4DBF),
   (0x4E00, 0x9FFF), (0xF900, 0xFA6D), (0xFA70, 0xFAD9), (0xFF66, 0xFF6F), (0xFF71, 0xFF9D),
   (0x16FE2, 0x16FE3), (0x16FF0, 0x16FF1), (0x1AFF0, 0x1AFF3), (0x1AFF5, 0x1AFFB),
   (0x1AFFD, 0x1AFFE), (0x1B000, 0x1B122), (0x1B150, 0x1B152), (0x1B164, 0x1B167),
   (0x1F200, 0x1F200), (0x20000, 0x2A6DF), (0x2A700, 0x2B738), (0x2B740, 0x2B81D),
   (0x2B820, 0x2CEA1), (0x2CEB0, 0x2EBE0), (0x2F800, 0x2FA1D), (0x30000, 0x3134A)]

/-- Why a host name or a label of it is refused. Positions count from one. -/
inductive LabelFault where
  | emptyName
  | emptyLabel
  | longName
  | longLabel
  | notComposed
  | innerHyphens
  | outerHyphen
  | markFirst
  | joiner (c : Char) (position : Nat) (label : String)
  | outOfPlace (c : Char) (position : Nat) (label : String)
  | forbidden (c : Char) (position : Nat) (label : String)
  | direction (fault : DirectionFault) (label : String)
  | noContent
  | finalHyphen
  | unreadable
  deriving DecidableEq, Repr

/-- A character by its number, with four digits or more. -/
def codeText (c : Char) : String :=
  let digits := Json.hexDigits 6 c.toNat
  let short := digits.take 2 |>.dropWhile (· == '0')
  "U+" ++ String.ofList ((short ++ digits.drop 2).map Char.toUpper)

def DirectionFault.message (label : String) : DirectionFault → String
  | .first =>
    "First codepoint in label " ++ Json.inspectString label ++
      " must be directionality L, R or AL"
  | .inLeftward position =>
    "Invalid direction for codepoint at position " ++ toString position ++
      " in a right-to-left label"
  | .mixedDigits => "Can not mix numeral types in a right-to-left label"
  | .inRightward position =>
    "Invalid direction for codepoint at position " ++ toString position ++
      " in a left-to-right label"
  | .ending => "Label ends with illegal codepoint directionality"

def LabelFault.message : LabelFault → String
  | .emptyName => "Empty domain"
  | .emptyLabel => "Empty Label"
  | .longName => "Domain too long"
  | .longLabel => "Label too long"
  | .notComposed => "Label must be in Normalization Form C"
  | .innerHyphens => "Label has disallowed hyphens in 3rd and 4th position"
  | .outerHyphen => "Label must not start or end with a hyphen"
  | .markFirst => "Label begins with an illegal combining character"
  | .joiner c position label =>
    "Unknown codepoint adjacent to joiner " ++ codeText c ++ " at position " ++
      toString position ++ " in " ++ Json.inspectString label
  | .outOfPlace c position label =>
    "Codepoint " ++ codeText c ++ " not allowed at position " ++ toString position ++ " in " ++
      Json.inspectString label
  | .forbidden c position label =>
    "Codepoint " ++ codeText c ++ " at position " ++ toString position ++ " of " ++
      Json.inspectString label ++ " not allowed"
  | .direction fault label => fault.message label
  | .noContent => "Malformed A-label, no Punycode eligible content found"
  | .finalHyphen => "A-label must not end with a hyphen"
  | .unreadable => "Invalid A-label"

def isJoiner (c : Char) : Bool := c.toNat == 0x200C || c.toNat == 0x200D

/-- The class of the marks that silence a vowel; a joiner may stand behind them. -/
def silencerClass : Nat := 9

/-- Whether a joiner may stand between `before`, nearest first, and `after`. -/
def joinerFits (c : Char) (before after : List Char) : Bool :=
  (match before with
    | last :: _ => Text.markClass last.toNat == silencerClass
    | [] => false) ||
    c.toNat == 0x200C && joinsAcross before after

/-- The characters that are bound to what they stand next to or together with. -/
def isBound (c : Char) : Bool :=
  let n := c.toNat
  [0xB7, 0x375, 0x5F3, 0x5F4, 0x30FB].contains n || (0x660 ≤ n && n ≤ 0x669) ||
    (0x6F0 ≤ n && n ≤ 0x6F9)

/-- Whether a bound character fits into a label. -/
def boundFits (label : List Char) (c : Char) (before after : List Char) : Bool :=
  let n := c.toNat
  if n == 0xB7 then before.head? == some 'l' && after.head? == some 'l'
  else if n == 0x375 then after.head?.any fun d => greek.holds d.toNat
  else if n == 0x5F3 || n == 0x5F4 then before.head?.any fun d => hebrew.holds d.toNat
  else if n == 0x30FB then label.any fun d => d != c && japanese.holds d.toNat
  else if n < 0x670 then label.all fun d => !(0x6F0 ≤ d.toNat && d.toNat ≤ 0x6F9)
  else label.all fun d => !(0x660 ≤ d.toNat && d.toNat ≤ 0x669)

/-- Checks each character of a label; `before` holds those that were passed, nearest
first. -/
def checkChars (label before : List Char) : List Char → Except LabelFault Unit
  | [] => .ok ()
  | c :: rest =>
    let position := before.length + 1
    let name := String.ofList label
    if isPermitted c then checkChars label (c :: before) rest
    else if isJoiner c then
      if joinerFits c before rest then checkChars label (c :: before) rest
      else .error (.joiner c position name)
    else if isBound c then
      if boundFits label c before rest then checkChars label (c :: before) rest
      else .error (.outOfPlace c position name)
    else .error (.forbidden c position name)

/-- The longest name, with a dot at its end. -/
def nameLimit : Nat := 254

def labelLimit : Nat := 63

def checkLabel (label : List Char) : Except LabelFault Unit := do
  if label.isEmpty then throw .emptyLabel
  if nameLimit < label.length then throw .longLabel
  if !Text.isComposed label then throw .notComposed
  if (label.drop 2).take 2 == ['-', '-'] then throw .innerHyphens
  if label.head? == some '-' || label.getLast? == some '-' then throw .outerHyphen
  if label.head?.any Text.isMark then throw .markFirst
  checkChars label [] label
  (checkDirections label).mapError fun fault => .direction fault (String.ofList label)

/-- The beginning of a label in ASCII that stands for another one. -/
def asciiMark : List Char := ['x', 'n', '-', '-']

/-- The label that a label in ASCII stands for. -/
def readLabel (label : List Char) : Except LabelFault (List Char) := do
  let label := label.map Char.toLower
  if asciiMark.isPrefixOf label then
    let content := label.drop asciiMark.length
    if content.isEmpty then throw .noContent
    if content.getLast? == some '-' then throw .finalHyphen
    match readPunycode? content with
    | some read =>
      checkLabel read
      return read
    | none => throw .unreadable
  else
    checkLabel label
    return label

/-- A label in ASCII. -/
def writeLabel (label : List Char) : Except LabelFault (List Char) := do
  if label.all fun c => c.toNat < 128 then
    let _ ← readLabel label
    if labelLimit < label.length then throw .longLabel
    return label
  else
    checkLabel label
    let written := asciiMark ++ punycode label
    if labelLimit < written.length then throw .longLabel
    return written

def isStop (c : Char) : Bool := [0x2E, 0x3002, 0xFF0E, 0xFF61].contains c.toNat

/-- The labels of a name. -/
def splitLabels (name : List Char) : List (List Char) :=
  name.foldr (fun c acc =>
    if isStop c then [] :: acc
    else match acc with
      | label :: rest => (c :: label) :: rest
      | [] => [[c]]) [[]]

/-- Treats each label of a name and joins the outcomes with dots. -/
def mapLabels (treat : List Char → Except LabelFault (List Char)) (name : List Char) :
    Except LabelFault (List Char × Bool) := do
  if nameLimit < name.length then throw .longName
  let labels := splitLabels name
  if labels == [[]] then throw .emptyName
  let trailing := labels.getLast? == some []
  let treated ← (if trailing then labels.dropLast else labels).mapM treat
  return ((treated ++ if trailing then [[]] else []).intersperse ['.'] |>.flatten, trailing)

/-- A name in ASCII. -/
def write (name : String) : Except LabelFault String := do
  let (written, trailing) ← mapLabels writeLabel name.toList
  if (if trailing then nameLimit else nameLimit - 1) < written.length then throw .longName
  return String.ofList written

/-- The name that a name in ASCII stands for. -/
def read (name : String) : Except LabelFault String := do
  let (name, _) ← mapLabels readLabel name.toList
  return String.ofList name

/-- Whether a name stands for another one. -/
def isWritten (name : String) : Bool := asciiMark.isPrefixOf name.toList

end Storyboard.HostName

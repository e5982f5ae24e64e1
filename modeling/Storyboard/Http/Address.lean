import Storyboard.Http.Percent
import Storyboard.Number.Numeral

/-!
# Numeric addresses

A host can be a number: four bytes in decimal with dots between them, or eight
groups of hexadecimal digits with colons between them, where one run of zero groups
may be left out and the last two groups may be written as four bytes.
-/
namespace Storyboard.Http

/-- The pieces between the occurrences of a character. -/
def pieces (mark : Char) (s : List Char) : List (List Char) :=
  s.foldr (fun c acc =>
    if c == mark then [] :: acc
    else match acc with
      | piece :: rest => (c :: piece) :: rest
      | [] => [[c]]) [[]]

/-- A byte in decimal, without zeros in front. -/
def isOctet (ds : List Char) : Bool :=
  !ds.isEmpty && ds.all Numeral.isPlainDigit && ds.length ≤ 3 &&
    (ds.length == 1 || ds.head? != some '0') && Numeral.plainValue ds ≤ 255

/-- Four bytes in decimal. -/
def isFourBytes (s : List Char) : Bool :=
  let parts := pieces '.' s
  parts.length == 4 && parts.all isOctet

/-- The lengths of the runs of digits, one more than there are other characters. -/
def digitRuns (s : List Char) : List Nat :=
  s.foldr (fun c acc =>
    if Numeral.isPlainDigit c then
      match acc with
      | n :: rest => (n + 1) :: rest
      | [] => [1]
    else 0 :: acc) [0]

/-- Whether a host is four numbers with one character, whatever it is, between each
two of them. A digit may be that character, so a run of `n` digits gives up to
`(n + 1) / 2` numbers. -/
def looksNumeric (host : List Char) : Bool :=
  let runs := digitRuns host
  let most := runs.foldl (fun count n => count + (n + 1) / 2) 0
  runs.length ≤ 4 && runs.all (fun n => n != 0) && 4 ≤ most

/-- One group of hexadecimal digits. -/
def isGroup (s : List Char) : Bool :=
  !s.isEmpty && s.length ≤ 4 && s.all fun c => (Json.hexValue? c).isSome

/-- The last group may be four bytes, which count as two groups. -/
def spreadBytes (parts : List (List Char)) : Option (List (List Char)) :=
  match parts.getLast? with
  | some last =>
    if last.contains '.' then
      if isFourBytes last then some (parts.dropLast ++ [['0'], ['0']]) else none
    else some parts
  | none => none

/-- Eight groups, or fewer around one empty group in the middle. An empty group at
an end is part of the one in the middle, and must stand next to it. -/
def areGroups (parts : List (List Char)) : Bool :=
  let inner := parts.tail.dropLast
  match inner.countP (·.isEmpty) with
  | 0 => parts.length == 8 && parts.all isGroup
  | 1 =>
    let high := parts.take (1 + (inner.takeWhile (!·.isEmpty)).length)
    let low := parts.drop (high.length + 1)
    let high := if high == [[]] then [] else high
    let low := if low == [[]] then [] else low
    high.length + low.length < 8 && high.all isGroup && low.all isGroup
  | _ => false

/-- Whether a text is an address of eight groups. A zone may follow a percent sign. -/
def isEightGroups (s : List Char) : Bool :=
  let groups := s.takeWhile (· != '%')
  let zoned := match s.dropWhile (· != '%') with
    | [] => true
    | _ :: zone => !zone.isEmpty && !zone.contains '%'
  let parts := pieces ':' groups
  zoned && !s.contains '/' && 3 ≤ parts.length &&
    match spreadBytes parts with
    | some parts => parts.length ≤ 9 && areGroups parts
    | none => false

end Storyboard.Http

import Storyboard.Json.Basic
import Storyboard.Text.Blank

/-!
# Placeholders in text

A placeholder is two opening braces, the nearest two closing ones, and no line
break between them. A text is cut into the literal in front of its first
placeholder, and for each placeholder its inner text with the literal that
follows it; `source` puts the pieces together again.
-/
namespace Storyboard

/-- A text cut at its placeholders. -/
structure Template where
  lead : List Char
  slots : List (List Char × List Char)
  deriving DecidableEq, Repr

namespace Template

/-- The text up to the nearest two closing braces, and the text behind them. -/
def closing : List Char → Option (List Char × List Char)
  | '\x7d' :: '\x7d' :: rest => some ([], rest)
  | '\n' :: _ => none
  | c :: rest => (closing rest).map fun (inner, after) => (c :: inner, after)
  | [] => none

/-- The placeholder a text starts with: its inner text and what follows it. -/
def opening : List Char → Option (List Char × List Char)
  | '\x7b' :: '\x7b' :: rest => closing rest
  | _ => none

/-- Cuts a text that is no longer than `fuel`. -/
def scanFrom : Nat → List Char → Template
  | 0, s => ⟨s, []⟩
  | _ + 1, [] => ⟨[], []⟩
  | fuel + 1, c :: rest =>
    match opening (c :: rest) with
    | some (inner, after) =>
      let more := scanFrom fuel after
      ⟨[], (inner, more.lead) :: more.slots⟩
    | none =>
      let more := scanFrom fuel rest
      ⟨c :: more.lead, more.slots⟩

def scan (s : List Char) : Template := scanFrom s.length s

/-- The text a template was cut from. -/
def source (t : Template) : List Char :=
  t.lead ++ t.slots.flatMap fun (inner, after) =>
    '\x7b' :: '\x7b' :: inner ++ '\x7d' :: '\x7d' :: after

/-- The paths of the placeholders. -/
def paths (t : Template) : List (List Char) := t.slots.map fun (inner, _) => Text.strip inner

/-- The text with each placeholder replaced by what `value` says for its path. -/
def fill (t : Template) (value : List Char → List Char) : List Char :=
  t.lead ++ t.slots.flatMap fun (inner, after) => value (Text.strip inner) ++ after

/-- Whether two opening braces stand next to each other. -/
def hasOpening : List Char → Bool
  | '\x7b' :: '\x7b' :: _ => true
  | _ :: rest => hasOpening rest
  | [] => false

/-- The inner text of a text that opens with two braces, closes with two (a final
line break aside) and opens none in between. It may hold closing braces. -/
def whole? (s : List Char) : Option (List Char) :=
  match Text.dropFinalBreak s with
  | '\x7b' :: '\x7b' :: rest =>
    match rest.reverse with
    | '\x7d' :: '\x7d' :: reversed =>
      let inner := reversed.reverse
      if inner.contains '\n' || hasOpening inner then none else some inner
    | _ => none
  | _ => none

end Template

end Storyboard

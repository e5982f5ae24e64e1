import Storyboard.Charset.Chart
import Storyboard.Charset.Chinese
import Storyboard.Charset.Japanese
import Storyboard.Charset.Korean

/-!
# Tables that are switched

Seven-bit text can hold several tables: escape sequences say which one the following
bytes belong to.
-/
namespace Storyboard.Charset

/-- Chinese between `~\x7b` and `~\x7d`; the state says whether the table is on. -/
def tildeChineseStep (on : Bool) : List Nat → Step × Bool
  | [] => (.fault 0, on)
  | 0x7E :: rest =>
    match rest with
    | [] => (.fault 1, on)
    | b :: _ =>
      if on then if b == 0x7D then (.chars [] 2, false) else (.fault 1, on)
      else if b == 0x7E then (.char 0x7E 2, on)
      else if b == 0x7B then (.chars [] 2, true)
      else if b == 0x0A then (.chars [] 2, on)
      else (.fault 1, on)
  | a :: rest =>
    if 0x80 ≤ a then (.fault 1, on)
    else if !on then (.char a 1, on)
    else match rest with
      | [] => (.fault 1, on)
      | b :: _ => (.ofTable (chinese? a b) 2 1, on)

/-- A table that can be switched to. -/
inductive Table where
  | ascii
  | romanJapanese
  | narrowJapanese
  | japanese
  | supplement
  | chinese
  | korean
  | western
  | greek
  deriving DecidableEq, Repr

/-- How many bytes a character of a table has. -/
def Table.width : Table → Nat
  | .japanese => 2
  | .supplement => 2
  | .chinese => 2
  | .korean => 2
  | _ => 1

/-- The tables a final byte names, with one byte and with two bytes a character. -/
def tableOf? (double : Bool) (final : Nat) : Option Table :=
  match double, Char.ofNat final with
  | false, 'B' => some .ascii
  | false, 'J' => some .romanJapanese
  | false, 'I' => some .narrowJapanese
  | false, 'A' => some .western
  | false, 'F' => some .greek
  | true, '@' => some .japanese
  | true, 'A' => some .chinese
  | true, 'B' => some .japanese
  | true, 'C' => some .korean
  | true, 'D' => some .supplement
  | _, _ => none

/-- A way of switching: the tables it knows, and what its sequences can do. -/
structure Switching where
  tables : List Table
  /-- The second set is shifted to by control characters. -/
  shifts : Bool
  /-- A third set gives single characters. -/
  singles : Bool
  /-- The revision of a table may be announced. -/
  revisions : Bool

/-- The sets that are switched on. -/
structure Sets where
  first : Table
  second : Table
  third : Table
  shifted : Bool
  /-- An unknown sequence is passed on as it is, up to its end. -/
  passing : Bool

def Sets.start : Sets := ⟨.ascii, .ascii, .ascii, false, false⟩

def escapeByte : Nat := 0x1B

/-- Whether a byte ends an escape sequence. -/
def endsEscape (b : Nat) : Bool := 0x40 ≤ b && b ≤ 0x5A

/-- The longest escape sequence has one byte less. -/
def escapeLimit : Nat := 16

/-- The length of an escape sequence, of which `index` bytes are passed: zero if it has
no end, none if the bytes break off. -/
def escapeLength (revisions : Bool) (index : Nat) : Nat → List Nat → Option Nat
  | 0, _ => some 0
  | fuel + 1, bytes =>
    if escapeLimit ≤ index then some 0
    else match bytes with
      | [] => none
      | b :: rest =>
        if endsEscape b then some (index + 1)
        else if revisions && b == 0x26 && rest.head? == some 0x40 then
          escapeLength revisions (index + 3) fuel (rest.drop 2)
        else escapeLength revisions (index + 1) fuel rest

/-- Which set a sequence of a known length switches, and to which table. -/
def designation? (way : Switching) (bytes : List Nat) : Nat → Option (Nat × Bool × Nat)
  | 3 =>
    match bytes.map Char.ofNat with
    | _ :: '$' :: c :: _ => some (0, true, c.toNat)
    | _ :: '(' :: c :: _ => some (0, false, c.toNat)
    | _ :: ')' :: c :: _ => some (1, false, c.toNat)
    | _ :: '.' :: c :: _ => if way.singles then some (2, false, c.toNat) else none
    | _ => none
  | 4 =>
    match bytes.map Char.ofNat with
    | _ :: '$' :: '(' :: c :: _ => some (0, true, c.toNat)
    | _ :: '$' :: ')' :: c :: _ => some (1, true, c.toNat)
    | _ => none
  | 6 =>
    if way.revisions && (bytes.drop 3).take 3 == [escapeByte, 0x24, 0x42] then some (0, true, 0x42)
    else none
  | _ => none

/-- Switches a set. -/
def Sets.switch (sets : Sets) (set : Nat) (table : Table) : Sets :=
  match set with
  | 0 => { sets with first := table }
  | 1 => { sets with second := table }
  | _ => { sets with third := table }

/-- An escape sequence that switches a set, or is at fault. -/
def switchStep (way : Switching) (sets : Sets) (bytes : List Nat) : Step × Sets :=
  match escapeLength way.revisions 1 escapeLimit (bytes.drop 1) with
  | none => (.cut bytes, sets)
  | some 0 => (.fault 1, sets)
  | some length =>
    match designation? way bytes length with
    | none => (.fault length, sets)
    | some (set, double, final) =>
      match tableOf? double final with
      | some table =>
        if table == .ascii || way.tables.contains table then
          (.chars [] length, sets.switch set table)
        else (.fault length, sets)
      | none => (.fault length, sets)

/-- A character of a table, from bytes below 0x80. -/
def Table.char? (table : Table) (a b : Nat) : Option Char :=
  match table with
  | .ascii => some (Char.ofNat a)
  | .romanJapanese =>
    some (Char.ofNat (if a == 0x5C then 0xA5 else if a == 0x7E then 0x203E else a))
  | .narrowJapanese =>
    if 0x21 ≤ a && a ≤ 0x5F then some (Char.ofNat (0xFF40 + a)) else none
  | .japanese => japanese? a b
  | .supplement => japaneseSupplement? a b
  | .chinese => chinese? a b
  | .korean => korean? a b
  | .western => none
  | .greek => none

/-- A single character of the third set. -/
def thirdStep (sets : Sets) : List Nat → Step
  | _ :: _ :: a :: _ =>
    match sets.third with
    | .ascii => if a < 0x80 then .char a 3 else .fault 3
    | .western => if a < 0x80 then .char (a + 0x80) 3 else .fault 3
    | .greek =>
      if 0x80 ≤ a then .fault 3
      else .ofTable ((chart? "iso8859_7").bind fun chart => chart.char? (a + 0x80)) 3 3
    | _ => .fault 3
  | bytes => .cut bytes

def switchedStep (way : Switching) (sets : Sets) : List Nat → Step × Sets
  | [] => (.fault 0, sets)
  | a :: rest =>
    if sets.passing then (.char a 1, { sets with passing := !endsEscape a })
    else if a == escapeByte then
      match rest with
      | [] => (.fault 1, sets)
      | b :: _ =>
        if "()$.&".toList.any fun c => c.toNat == b then switchStep way sets (a :: rest)
        else if way.singles && b == 0x4E then (thirdStep sets (a :: rest), sets)
        else (.char a 1, { sets with passing := true })
    else if a == 0x0F && way.shifts then (.chars [] 1, { sets with shifted := false })
    else if a == 0x0E && way.shifts then (.chars [] 1, { sets with shifted := true })
    else if a == 0x0A then (.char a 1, { sets with shifted := false })
    else if a < 0x20 then (.char a 1, sets)
    else if 0x80 ≤ a then (.fault 1, sets)
    else
      let table := if sets.shifted then sets.second else sets.first
      match rest, table.width with
      | b :: _, 2 => (.ofTable (table.char? a b) 2 2, sets)
      | [], 2 => (.fault 1, sets)
      | _, _ => (.ofTable (table.char? a 0) 1 1, sets)

end Storyboard.Charset

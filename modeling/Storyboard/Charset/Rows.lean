/-!
# Character tables

A table has rows, by number, and each row has cells. A cell that stands for nothing
holds the replacement character, or is left out at the end of a row.
-/
namespace Storyboard.Charset

/-- The rows of a table. -/
abbrev Rows := List (Nat × String)

/-- The character in a cell; cells count from zero. -/
def Rows.char? (rows : Rows) (row cell : Nat) : Option Char :=
  match rows.find? fun p => p.1 == row with
  | some (_, chars) =>
    match chars.toList[cell]? with
    | some c => if c.toNat == 0xFFFD then none else some c
    | none => none
  | none => none

end Storyboard.Charset

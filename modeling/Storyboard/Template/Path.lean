import Storyboard.Json.Basic
import Storyboard.Number.Numeral

/-!
# Paths into a value

A dotted path walks objects by key and lists by index; a negative index counts
from the end. Where a step finds nothing, or finds `null`, the path has no value.
-/
namespace Storyboard.Path

/-- The steps of a path: the pieces between its dots, at least one. -/
def steps : List Char → List (List Char)
  | [] => [[]]
  | '.' :: rest => [] :: steps rest
  | c :: rest =>
    match steps rest with
    | [] => [[c]]
    | piece :: more => (c :: piece) :: more

/-- The place an index stands for, counted from the end when it is negative. -/
def place? (items : List Json) (index : Int) : Option Nat :=
  let i := if index < 0 then index + items.length else index
  if i < 0 then none else some i.toNat

def element? (items : List Json) (index : Int) : Option Json :=
  (place? items index).bind fun i => items[i]?

/-- One step; a `null` counts as nothing. -/
def step (v : Json) (piece : List Char) : Option Json :=
  let found := match v with
    | .obj fields => Assoc.get? fields (String.ofList piece)
    | .arr items => (Numeral.parseInt? piece).bind (element? items)
    | _ => none
  match found with
  | some .null => none
  | other => other

def walk (v : Json) : List (List Char) → Option Json
  | [] => some v
  | piece :: rest => (step v piece).bind fun next => walk next rest

/-- The value at the end of a path. -/
def get? (v : Json) (path : List Char) : Option Json := walk v (steps path)

/-- A value with the part at the end of some steps changed. -/
def change (f : Json → Json) : List (List Char) → Json → Json
  | [], v => f v
  | piece :: rest, .obj fields =>
    .obj (fields.map fun (key, v) =>
      (key, if key == String.ofList piece then change f rest v else v))
  | piece :: rest, .arr items =>
    match (Numeral.parseInt? piece).bind (place? items) with
    | some i => .arr (items.modify i (change f rest))
    | none => .arr items
  | _, v => v

end Storyboard.Path

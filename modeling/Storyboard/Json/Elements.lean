import Storyboard.Json.Display

/-!
# Elements of values

Where a list is expected, other values may stand in for one: a text for the list of
its characters, an object for the list of its keys.
-/
namespace Storyboard.Json

/-- The elements of a value that is walked like a list. -/
def elements? : Json → Option (List Json)
  | .arr items => some items
  | .str s => some (s.toList.map fun c => .str (String.singleton c))
  | .obj fields => some (fields.map fun p => .str p.1)
  | _ => none

/-- The name of a kind of value, as messages give it. -/
def kindName : Json → String
  | .null => "NoneType"
  | .bool _ => "bool"
  | .int _ => "int"
  | .float _ => "float"
  | .str _ => "str"
  | .arr _ => "list"
  | .obj _ => "dict"

/-- A scalar as a step of the path to an issue; truth values count as numbers. -/
def placeText : Json → String
  | .bool b => if b then "1" else "0"
  | v => v.display

end Storyboard.Json

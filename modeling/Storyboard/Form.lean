import Storyboard.Json.Elements
import Storyboard.Json.Writer

/-!
# Form values

The values the user has typed in, by field id. They survive navigation; only
what clears or resets them changes them. A patch from outside may be an object
or a list of pairs; a malformed one is refused at its first bad element, the
elements before it having been merged. A field id is a text, but the pairs of a
patch may bring other scalars as keys, and these are kept apart from texts.
-/
namespace Storyboard

namespace Form

/-- What a value is filed under. -/
inductive Key where
  | id (text : String)
  /-- A scalar that is no text. -/
  | scalar (v : Json)

namespace Key

/-- The key a value stands for; containers are no keys. -/
def ofJson? : Json → Option Key
  | .str s => some (.id s)
  | .arr _ => none
  | .obj _ => none
  | v => some (.scalar v)

/-- Whether two keys are one. Scalars are compared by content, a text equals a text
only. -/
def agrees : Key → Key → Bool
  | .id a, .id b => a == b
  | .scalar a, .scalar b => a.same b || a.isSameNan b
  | _, _ => false

/-- The key in the text of an object. -/
def text : Key → String
  | .id s => s
  | .scalar v => v.write (.plain true)

end Key

end Form

/-- Keys and their values, in order of arrival. -/
abbrev Form := List (Form.Key × Json)

namespace Form

def get? (form : Form) (key : Key) : Option Json := (form.find? fun p => p.1.agrees key).map (·.2)

/-- Files a value. A key that is there already keeps its place and its spelling. -/
def put (form : Form) (key : Key) (v : Json) : Form :=
  match form with
  | [] => [(key, v)]
  | (k, old) :: rest => if k.agrees key then (k, v) :: rest else (k, old) :: put rest key v

def ofFields (fields : Assoc Json) : Form := fields.map fun (name, v) => (.id name, v)

/-- The form as the fields of an object. -/
def toFields (form : Form) : Assoc Json := form.map fun (key, v) => (key.text, v)

/-- A copy of the form as the fields of an object, if it can follow the values. -/
def snapshot (form : Form) : Option (Assoc Json) :=
  if (Json.obj form.toFields).copies then some form.toFields else none

/-- The value of a field; `null` when it was never set. -/
def value (form : Form) (id : String) : Json := (get? form (.id id)).getD .null

/-- Empties the named fields and leaves the others. -/
def clear (form : Form) (ids : List String) : Form :=
  ids.foldl (fun f id => put f (.id id) (.str "")) form

/-- What is wrong with a patch. -/
inductive PatchFault where
  | notIterable (kind : String)
  | elementNotSequence (index : Nat)
  | elementLength (index length : Nat)
  | containerKey (kind : String)
  deriving DecidableEq, Repr

def PatchFault.message : PatchFault → String
  | .notIterable kind => "'" ++ kind ++ "' object is not iterable"
  | .elementNotSequence index =>
    "cannot convert dictionary update sequence element #" ++ toString index ++ " to a sequence"
  | .elementLength index length =>
    "dictionary update sequence element #" ++ toString index ++ " has length " ++
      toString length ++ "; 2 is required"
  | .containerKey kind => "unhashable type: '" ++ kind ++ "'"

/-- Merges pairs one after the other, up to the first malformed one. -/
def mergePairs (form : Form) (index : Nat) : List Json → Form × Option PatchFault
  | [] => (form, none)
  | pair :: rest =>
    match pair.elements? with
    | none => (form, some (.elementNotSequence index))
    | some [key, value] =>
      match Key.ofJson? key with
      | some k => mergePairs (put form k value) (index + 1) rest
      | none => (form, some (.containerKey key.kindName))
    | some other => (form, some (.elementLength index other.length))

/-- Empties fields one after the other, up to the first that is no key. -/
def clearItems (form : Form) : List Json → Form × Option PatchFault
  | [] => (form, none)
  | key :: rest =>
    match Key.ofJson? key with
    | some k => clearItems (put form k (.str "")) rest
    | none => (form, some (.containerKey key.kindName))

/-- Empties the fields a list names. -/
def clearEach (form : Form) (ids : Json) : Form × Option PatchFault :=
  match ids.elements? with
  | some keys => clearItems form keys
  | none => (form, some (.notIterable ids.kindName))

/-- Merges a patch. -/
def patch (form : Form) : Json → Form × Option PatchFault
  | .obj fields => (fields.foldl (fun f p => put f (.id p.1) p.2) form, none)
  | v =>
    match v.elements? with
    | some pairs => mergePairs form 0 pairs
    | none => (form, some (.notIterable v.kindName))

/-- The table a value describes: an object, or a list of pairs. -/
def table? (v : Json) : Except PatchFault Form :=
  match patch [] v with
  | (form, none) => .ok form
  | (_, some fault) => .error fault

end Form

end Storyboard

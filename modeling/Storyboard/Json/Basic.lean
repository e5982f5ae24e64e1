import Storyboard.Assoc
import Storyboard.Number.Shortest

/-!
# JSON values

Objects keep the order of their keys, whole numbers are exact, and the numbers
with a fraction or an exponent are doubles, the special values included.
`same` is equality of content: numbers are equal when they are the same point,
truth values count as 0 and 1, and the order of keys is ignored. What is no number
equals nothing, but inside a list or an object it stands for itself: there two of
the same payload are equal.
-/
namespace Storyboard

inductive Json where
  | null
  | bool (value : Bool)
  | int (value : Int)
  | float (value : Binary64)
  | str (value : String)
  | arr (items : List Json)
  | obj (fields : List (String × Json))
  deriving Inhabited, Repr

namespace Json

def isNull : Json → Bool
  | .null => true
  | _ => false

/-- The fields of an object; nothing for any other value. -/
def fields? : Json → Option (Assoc Json)
  | .obj fields => some fields
  | _ => none

def str? : Json → Option String
  | .str s => some s
  | _ => none

/-- Emptiness, zero, `false` and `null` are falsy; everything else is truthy. -/
def truthy : Json → Bool
  | .null => false
  | .bool b => b
  | .int n => n != 0
  | .float x => !x.isZero
  | .str s => s != ""
  | .arr items => !items.isEmpty
  | .obj fields => !fields.isEmpty

/-- The point on the number line, for numbers proper. -/
def number? : Json → Option Quantity
  | .int n => some (.ofInt n)
  | .float x => some x.quantity
  | _ => none

/-- The point on the number line, truth values included. -/
def numeric? : Json → Option Quantity
  | .bool b => some (.ofInt (if b then 1 else 0))
  | v => v.number?

/-- Whether two values are the same one among those that are no numbers. -/
def isSameNan : Json → Json → Bool
  | .float (.nan p), .float (.nan q) => p == q
  | _, _ => false

mutual

/-- Equality of content. -/
def same : Json → Json → Bool
  | .null, .null => true
  | .str a, .str b => a == b
  | .arr a, .arr b => sameItems a b
  | .obj a, .obj b => a.length == b.length && sameFields a b
  | a, b =>
    match a.numeric?, b.numeric? with
    | some x, some y => x.equal y
    | _, _ => false

def sameItems : List Json → List Json → Bool
  | [], [] => true
  | a :: as, b :: bs => (same a b || isSameNan a b) && sameItems as bs
  | _, _ => false

/-- Every field of the first table stands in the second with the same content. -/
def sameFields : List (String × Json) → List (String × Json) → Bool
  | [], _ => true
  | (k, a) :: as, bs =>
    (match Assoc.get? bs k with
      | some b => same a b || isSameNan a b
      | none => false) && sameFields as bs

end

mutual

/-- Levels of nesting, a scalar or an empty container counting as one. -/
def height : Json → Nat
  | .arr items => heightItems items + 1
  | .obj fields => heightFields fields + 1
  | _ => 1

def heightItems : List Json → Nat
  | [] => 0
  | v :: rest => max (height v) (heightItems rest)

def heightFields : List (String × Json) → Nat
  | [] => 0
  | (_, v) :: rest => max (height v) (heightFields rest)

end

/-- The levels of nesting that a copy can follow on a stack that is almost empty. A caller that is
itself called from far down leaves a few levels less. -/
def copyLimit : Nat := 495

/-- Whether a value can be copied. -/
def copies (v : Json) : Bool := v.height ≤ copyLimit

/-- The levels of nesting that can be written out as text, on the same terms. -/
def showLimit : Nat := 980

/-- Whether there is a text of a value. -/
def shows (v : Json) : Bool := v.height ≤ showLimit

mutual

/-- The value with every number that JSON text cannot hold replaced by `null`. -/
def finitize : Json → Json
  | .float x => if x.isFinite then .float x else .null
  | .arr items => .arr (finitizeItems items)
  | .obj fields => .obj (finitizeFields fields)
  | v => v

def finitizeItems : List Json → List Json
  | [] => []
  | v :: rest => finitize v :: finitizeItems rest

def finitizeFields : List (String × Json) → List (String × Json)
  | [] => []
  | (k, v) :: rest => (k, finitize v) :: finitizeFields rest

end

end Json

end Storyboard

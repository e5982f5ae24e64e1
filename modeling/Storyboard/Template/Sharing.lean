import Storyboard.Template.Resolve

/-!
# Shared values

A text that is one placeholder stands for the value at its path itself, and not for
a copy. A list or an object that is inserted in this way is shared: what is put into
it afterwards shows wherever it was inserted. So there are two contexts here, the
one of the moment and a later one. They have the same values, but for what was put
into objects in between.
-/
namespace Storyboard

/-- The path of a text that is one placeholder. -/
def Template.wholePath? (s : String) : Option (List Char) :=
  (whole? s.toList).map (Text.strip ·)

/-- A text resolved at a moment and seen later. -/
def Template.resolveShared (now later : Json) (s : String) : Json :=
  match wholePath? s with
  | some path =>
    match resolveString now s with
    | .arr items => (Path.get? later path).getD (.arr items)
    | .obj fields => (Path.get? later path).getD (.obj fields)
    | v => v
  | none => resolveString now s

mutual

/-- A token of a token table, resolved at a moment and seen later. -/
def Template.resolveDeep (now later : Json) : Json → Json
  | .str s => resolveShared now later s
  | .arr items => .arr (resolveDeepItems now later items)
  | .obj fields => .obj (resolveDeepFields now later fields)
  | v => v

def Template.resolveDeepItems (now later : Json) : List Json → List Json
  | [] => []
  | v :: rest => resolveDeep now later v :: resolveDeepItems now later rest

def Template.resolveDeepFields (now later : Json) : List (String × Json) → List (String × Json)
  | [] => []
  | (k, v) :: rest => (k, resolveDeep now later v) :: resolveDeepFields now later rest

end

mutual

/-- Tokens, then placeholders, resolved at a moment and seen later. -/
def resolveSeen (now later : Json) (tokens : Assoc Json) : Json → Json
  | .str s => Template.resolveDeep now later (Token.resolveString tokens s)
  | .arr items => .arr (resolveSeenItems now later tokens items)
  | .obj fields => .obj (resolveSeenFields now later tokens fields)
  | v => v

def resolveSeenItems (now later : Json) (tokens : Assoc Json) : List Json → List Json
  | [] => []
  | v :: rest => resolveSeen now later tokens v :: resolveSeenItems now later tokens rest

def resolveSeenFields (now later : Json) (tokens : Assoc Json) :
    List (String × Json) → List (String × Json)
  | [] => []
  | (k, v) :: rest => (k, resolveSeen now later tokens v) :: resolveSeenFields now later tokens rest

end

end Storyboard

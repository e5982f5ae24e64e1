import Storyboard.Json.Basic

/-!
# Design tokens

A string `$name` stands for the token of that name. Tokens are replaced at any
depth; an unknown token, or one without a value, stays as it is written.
-/
namespace Storyboard.Token

/-- The token a string refers to: what follows a leading `$`, if anything does. -/
def name? (s : String) : Option String :=
  match s.toList with
  | '$' :: c :: rest => some (String.ofList (c :: rest))
  | _ => none

/-- The value of a token; a token that is `null` has none. -/
def lookup (tokens : Assoc Json) (name : String) : Option Json :=
  match Assoc.get? tokens name with
  | some .null => none
  | found => found

/-- A string with its token replaced. -/
def resolveString (tokens : Assoc Json) (s : String) : Json :=
  ((name? s).bind (lookup tokens)).getD (.str s)

/-- A value with its token replaced, when it is a string that refers to one. -/
def resolve (tokens : Assoc Json) : Json → Json
  | .str s => resolveString tokens s
  | v => v

mutual

/-- Every string at any depth with its token replaced. -/
def resolveAll (tokens : Assoc Json) : Json → Json
  | .str s => resolveString tokens s
  | .arr items => .arr (resolveItems tokens items)
  | .obj fields => .obj (resolveFields tokens fields)
  | v => v

def resolveItems (tokens : Assoc Json) : List Json → List Json
  | [] => []
  | v :: rest => resolveAll tokens v :: resolveItems tokens rest

def resolveFields (tokens : Assoc Json) : List (String × Json) → List (String × Json)
  | [] => []
  | (k, v) :: rest => (k, resolveAll tokens v) :: resolveFields tokens rest

end

mutual

/-- The names referred to, depth first. -/
def references : Json → List String
  | .str s => (name? s).toList
  | .arr items => referencesItems items
  | .obj fields => referencesFields fields
  | _ => []

def referencesItems : List Json → List String
  | [] => []
  | v :: rest => references v ++ referencesItems rest

def referencesFields : List (String × Json) → List String
  | [] => []
  | (_, v) :: rest => references v ++ referencesFields rest

end

/-- The distinct elements of a list in order of first occurrence. -/
def distinct (names : List String) : List String :=
  names.foldl (fun seen n => if seen.contains n then seen else seen ++ [n]) []

/-- The names that are referred to and not defined. -/
def missing (tokens : Assoc Json) (v : Json) : List String :=
  distinct ((references v).filter fun n => !Assoc.has tokens n)

end Storyboard.Token

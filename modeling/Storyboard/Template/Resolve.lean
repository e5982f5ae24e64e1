import Storyboard.Json.Writer
import Storyboard.Template.Path
import Storyboard.Template.Placeholder
import Storyboard.Template.Token

/-!
# Resolution at render time

Tokens are replaced first, then placeholders, at any depth. A text that is one
placeholder becomes the value at its path, whatever its type; in any other text
each placeholder is replaced by the text of its value. A path without a value
gives the empty text.
-/
namespace Storyboard

namespace Json

/-- The text of a value as it is shown to the user. -/
def caption : Json → String
  | .null => ""
  | .bool true => "true"
  | .bool false => "false"
  | .int n => toString n
  | .float x =>
    match x.toInt? with
    | some n => toString n
    | none => x.render ⟨"nan", "inf"⟩
  | .str s => s
  | v => v.write (.plain true)

end Json

namespace Template

/-- The value at a path, `null` where there is none. -/
def valueAt (context : Json) (path : List Char) : Json := (Path.get? context path).getD .null

def interpolate (context : Json) (s : String) : String :=
  String.ofList ((scan s.toList).fill fun path => (valueAt context path).caption.toList)

def hasPlaceholder (s : String) : Bool := !(scan s.toList).slots.isEmpty

def extractPaths (s : String) : List String := (scan s.toList).paths.map String.ofList

def resolveString (context : Json) (s : String) : Json :=
  match whole? s.toList with
  | some inner => (Path.get? context (Text.strip inner)).getD (.str "")
  | none => if hasPlaceholder s then .str (interpolate context s) else .str s

mutual

/-- Every string at any depth with its placeholders replaced. -/
def resolve (context : Json) : Json → Json
  | .str s => resolveString context s
  | .arr items => .arr (resolveItems context items)
  | .obj fields => .obj (resolveFields context fields)
  | v => v

def resolveItems (context : Json) : List Json → List Json
  | [] => []
  | v :: rest => resolve context v :: resolveItems context rest

def resolveFields (context : Json) : List (String × Json) → List (String × Json)
  | [] => []
  | (k, v) :: rest => (k, resolve context v) :: resolveFields context rest

end

end Template

mutual

/-- Tokens, then placeholders, in one walk. What a placeholder inserts is not
looked at again. -/
def resolveValue (context : Json) (tokens : Assoc Json) : Json → Json
  | .str s => Template.resolve context (Token.resolveString tokens s)
  | .arr items => .arr (resolveValueItems context tokens items)
  | .obj fields => .obj (resolveValueFields context tokens fields)
  | v => v

def resolveValueItems (context : Json) (tokens : Assoc Json) : List Json → List Json
  | [] => []
  | v :: rest => resolveValue context tokens v :: resolveValueItems context tokens rest

def resolveValueFields (context : Json) (tokens : Assoc Json) :
    List (String × Json) → List (String × Json)
  | [] => []
  | (k, v) :: rest => (k, resolveValue context tokens v) :: resolveValueFields context tokens rest

end

end Storyboard

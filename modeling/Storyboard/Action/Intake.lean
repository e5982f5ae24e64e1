import Storyboard.Action.Reader
import Storyboard.Notice

/-!
# Taking in actions

What a host hands over as an action is arbitrary data. `Action.accept` turns it
into an action or refuses it with a notice. Only a `type` that is a container is
beyond it: tags are looked up in a set, which lists and objects cannot enter.
-/
namespace Storyboard

/-- A tag that cannot be looked up. -/
inductive TagFault where
  | list
  | object
  deriving DecidableEq, Repr

def TagFault.message : TagFault → String
  | .list => "unhashable type: 'list'"
  | .object => "unhashable type: 'dict'"

namespace ActionKind

/-- The kind a `type` stands for, if it stands for one. -/
def lookUp : Json → Except TagFault (Option ActionKind)
  | .arr _ => .error .list
  | .obj _ => .error .object
  | .str s => .ok (ofTag? s)
  | _ => .ok none

end ActionKind

namespace Action

/-- An action that was taken in, or the notice of its refusal; `null` is refused
without one. -/
structure Intake where
  action : Option Action
  notices : List Notice

def Intake.refused (notice : Notice) : Intake := ⟨none, [notice]⟩

/-- Turns host data into an action. -/
def accept (v : Json) : Except TagFault Intake :=
  match v with
  | .null => .ok ⟨none, []⟩
  | .obj fields =>
    let tag := (Assoc.get? fields "type").getD .null
    if !tag.truthy then .ok (.refused (.actionWithoutType v))
    else match ActionKind.lookUp tag with
      | .error fault => .error fault
      | .ok none => .ok (.refused (.unknownAction tag))
      | .ok (some kind) =>
        match ofJson v with
        | .ok a => .ok ⟨some a, []⟩
        | .bad issues => .ok (.refused (.invalidAction kind.tag (issues.map Issue.text)))
  | _ => .ok (.refused (.actionNotObject v))

end Action

end Storyboard

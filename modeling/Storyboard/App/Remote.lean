import Storyboard.Action.Basic
import Storyboard.Form
import Storyboard.Notice

/-!
# Remote submits

A submit to an endpoint takes its payload from the form when it is dispatched. Its
outcome decides which of its two follow-ups runs.
-/
namespace Storyboard

/-- What the other side sees of a submit. -/
structure Posting where
  endpoint : String
  payload : Assoc Json
  method : Method
  headers : Option (Assoc String)

/-- A submit on its way. `allowance` is how many actions its follow-up may run. -/
structure RemoteSubmit extends Posting where
  onSuccess : Option Action
  onError : Option Action
  allowance : Nat

/-- What became of a request. -/
inductive Outcome where
  | succeeded
  | refused (endpoint reason : String)
  | crashed
  deriving DecidableEq, Repr

/-- How the other side answers a request. -/
structure Answer where
  outcome : Outcome
  /-- What is said until the answer is there, or has to be waited for. -/
  opening : List Notice
  /-- What is said once it was waited for; `none` when it is there at once. -/
  closing : Option (List Notice)

namespace Answer

def isAtOnce (a : Answer) : Bool := a.closing.isNone

def notices (a : Answer) : List Notice := a.opening ++ a.closing.getD []

end Answer

/-- The other side: its answer to the request with a number, counted from zero. -/
structure Submitter where
  send : Nat → Posting → Answer

namespace RemoteSubmit

/-- The submit an action makes at an endpoint. -/
def ofAction (endpoint : String) (form : Form) (allowance : Nat) : Submit → RemoteSubmit
  | ⟨_, _, method, headers, _, fields, onSuccess, onError, _⟩ =>
    let ids := (fields.toOption.getD []).map (·.2)
    { endpoint, allowance
      payload := Assoc.ofPairs (ids.map fun id => (id, Form.value form id))
      method := method.toOption.getD .post
      headers := headers.toOption
      onSuccess := onSuccess.toOption
      onError := onError.toOption }

/-- The branch an outcome takes. -/
def followUp (r : RemoteSubmit) : Outcome → Option Action
  | .succeeded => r.onSuccess
  | _ => r.onError

/-- What is said about an outcome. -/
def outcomeNotices (r : RemoteSubmit) : Outcome → List Notice
  | .succeeded => []
  | .refused endpoint reason => [.submissionFailed endpoint reason]
  | .crashed => [.submissionCrashed r.endpoint]

end RemoteSubmit

end Storyboard

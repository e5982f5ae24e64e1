import Storyboard.App.Remote
import Storyboard.Http.Running

/-!
# Submitting from an app

Remote submits go out over HTTP, through a client and over a transport.
-/
namespace Storyboard

/-- What a submit over HTTP means for the app. -/
def Http.outcomeOf : Except Http.SubmitFault Json → Outcome
  | .ok _ => .succeeded
  | .error (.refused refusal) => .refused refusal.endpoint refusal.reason
  | .error (.raised _) => .crashed

variable {Request : Type}

/-- The other side as it is reached by exchanging requests for replies; what `leaves` for
the network has to be waited for. -/
def Submitter.http (client : Http.Client Request) (transport : Http.Transport Request)
    (leaves : Request → Bool) : Submitter where
  send _ posting :=
    let submission :=
      Http.submit client transport posting.endpoint posting.payload posting.method.name
        (Assoc.mapValues .str (posting.headers.getD []))
    ⟨Http.outcomeOf submission.result, submission.notices,
      if submission.request.any leaves then some [] else none⟩

/-- The other side of a program without a network. -/
def Submitter.unconnected : Submitter :=
  .http .running Http.unconnected fun request => Http.knownSchemes.contains request.url.scheme

end Storyboard

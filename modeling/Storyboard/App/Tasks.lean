import Storyboard.App.Remote

/-!
# Pending submits

Submits that were dispatched and have not run to their end. Wake-ups are handled in
the order in which they arose. With serialised submits an endpoint is held by one
submit at a time and the others wait in the order of their arrival; the endpoint is
handed on before the follow-up of its last holder runs.
-/
namespace Storyboard

/-- Something a submit can go on with. -/
inductive Wakeup where
  | start (r : RemoteSubmit)
  | granted (r : RemoteSubmit)
  | answered (r : RemoteSubmit) (outcome : Outcome)

/-- A request that was made and not answered, with its number. -/
structure OpenCall where
  number : Nat
  submit : RemoteSubmit

structure Tasks where
  ready : List Wakeup
  waiting : List RemoteSubmit
  held : List String
  openCalls : List OpenCall

namespace Wakeup

/-- Wake-ups a wake-up can lead to, itself included. -/
def weight : Wakeup → Nat
  | .answered .. => 3
  | _ => 1

end Wakeup

namespace Tasks

def none : Tasks := ⟨[], [], [], []⟩

/-- Whether anything is left to be done. -/
def isBusy (t : Tasks) : Bool := !t.ready.isEmpty || !t.waiting.isEmpty || !t.openCalls.isEmpty

/-- Adds a newly dispatched submit, if there is one. -/
def spawn (t : Tasks) : Option RemoteSubmit → Tasks
  | some r => { t with ready := t.ready ++ [.start r] }
  | .none => t

/-- The bound on the wake-ups until nothing moves by itself. -/
def weight (t : Tasks) : Nat := (t.ready.map Wakeup.weight).foldr (· + ·) 0

/-- The first submit that waits for an endpoint, and the others. -/
def takeWaiting (endpoint : String) : List RemoteSubmit → Option (RemoteSubmit × List RemoteSubmit)
  | [] => .none
  | r :: rest =>
    if r.endpoint == endpoint then some (r, rest)
    else (takeWaiting endpoint rest).map fun (found, others) => (found, r :: others)

/-- Lets go of an endpoint: the first submit waiting for it holds it next. -/
def release (t : Tasks) (endpoint : String) : Tasks :=
  match takeWaiting endpoint t.waiting with
  | some (next, others) => { t with waiting := others, ready := t.ready ++ [.granted next] }
  | .none => { t with held := t.held.erase endpoint }

/-- Answers an open call; `none` when no call with the number is open. -/
def answer? (t : Tasks) (number : Nat) (outcome : Outcome) : Option Tasks :=
  (t.openCalls.find? fun c => c.number == number).map fun call =>
    { t with
      openCalls := t.openCalls.filter fun c => c.number != number
      ready := t.ready ++ [.answered call.submit outcome] }

/-- Answers every open call with success, in the order of the calls. -/
def answerAll (t : Tasks) : Tasks :=
  { t with
    openCalls := []
    ready := t.ready ++ t.openCalls.map fun c => .answered c.submit .succeeded }

/-- The submits that are not finished. -/
def unfinished (t : Tasks) : List RemoteSubmit :=
  (t.ready.map fun
    | .start r => r
    | .granted r => r
    | .answered r _ => r) ++ t.waiting ++ t.openCalls.map (·.submit)

/-- The bound on the rounds until no submit is left, when every call is answered: a
follow-up has less of the allowance left. -/
def rounds (t : Tasks) : Nat := (t.unfinished.map fun r => r.allowance + 1).foldr (· + ·) 0

end Tasks

end Storyboard

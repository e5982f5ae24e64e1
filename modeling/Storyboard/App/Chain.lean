import Storyboard.App.Performer

/-!
# Chains

An action and its follow-ups run one after the other, at most as many as the chain
is allowed. A chain ends by itself, at the cap, or with a remote submit, whose
follow-up is a chain of its own with what is left of the allowance.
-/
namespace Storyboard

/-- What a chain did: the actions performed, in order, and the remote submit at its end. -/
structure Chain where
  context : Context
  effects : List Effect
  notices : List Notice
  performed : List Action
  remote : Option RemoteSubmit

namespace Chain

/-- Nothing happened. -/
def idle (context : Context) : Chain := ⟨context, [], [], [], none⟩

/-- A chain with an action in front of it. -/
def after (action : Action) (step : Step) (rest : Chain) : Chain :=
  { rest with
    effects := step.effects ++ rest.effects
    notices := step.notices ++ rest.notices
    performed := action :: rest.performed }

end Chain

namespace Performer

/-- Runs an action and its follow-ups within an allowance. -/
def run (p : Performer) : Nat → Action → Context → Chain
  | 0, _, c => { Chain.idle c with notices := [.depthExceeded p.settings.maxActionDepth.depth] }
  | allowance + 1, action, c =>
    let step := p.perform c action
    match step.next with
    | .finished => .after action step (.idle step.context)
    | .follow next => .after action step (p.run allowance next step.context)
    | .send endpoint submit =>
      .after action step
        { Chain.idle step.context with
          remote := some (.ofAction endpoint step.context.form allowance submit) }

/-- Runs an action with the full allowance. -/
def runFully (p : Performer) (action : Action) (c : Context) : Chain :=
  p.run p.settings.maxActionDepth.depth action c

/-- Runs the branch that the outcome of a remote submit takes. -/
def resume (p : Performer) (r : RemoteSubmit) (outcome : Outcome) (c : Context) : Chain :=
  let chain := match r.followUp outcome with
    | some action => p.run r.allowance action c
    | none => .idle c
  { chain with notices := r.outcomeNotices outcome ++ chain.notices }

end Performer

end Storyboard

import Storyboard.App.Basic

/-!
# Dispatching without a scheduler

A remote submit is sent and its answer waited for, and its follow-up belongs to the
same dispatch. A second one, at the end of that follow-up, is a task of its own: it is
sent as well, and what it leads to is published before the dispatch is. Nothing waits
for it, though: its request is cut off unless the answer is there at once. At the end of
its follow-up nothing is left to send a third one, which is dropped.
-/
namespace Storyboard.App

/-- Makes the request of a submit. -/
def request (submitter : Submitter) (r : RemoteSubmit) (app : App) : Answer × App :=
  (submitter.send app.calls.length r.toPosting, { app with calls := app.calls ++ [r] })

/-- Sends a submit and runs its follow-up. -/
def complete (submitter : Submitter) (r : RemoteSubmit) (app : App) : Chain × App × List Notice :=
  let (answer, app) := app.request submitter r
  let chain := app.performer.resume r answer.outcome app.context
  (chain, { app with context := chain.context }, answer.notices ++ chain.notices)

/-- Sends a submit that is a task of its own, and publishes what it leads to if the
answer is there at once. -/
def completeAside (submitter : Submitter) (r : RemoteSubmit) (app : App) : App × Report :=
  let (answer, asked) := app.request submitter r
  if answer.isAtOnce then
    let (chain, app, notices) := app.complete submitter r
    let (app, report) := app.publish chain.effects
    (app, .said notices ++ report)
  else (asked, .said answer.opening)

/-- Performs an action and everything that follows from it, then publishes its effects. -/
def performInline (submitter : Submitter) (action : Action) (app : App) : App × Report :=
  let first := app.performer.runFully action app.context
  let app := { app with context := first.context }
  match first.remote with
  | none =>
    let (app, report) := app.publish first.effects
    (app, .said first.notices ++ report)
  | some r =>
    let (second, app, notices) := app.complete submitter r
    let (app, aside) := match second.remote with
      | some r => app.completeAside submitter r
      | none => (app, .silent)
    let (app, report) := app.publish (first.effects ++ second.effects)
    (app, .said (first.notices ++ notices) ++ aside ++ report)

end Storyboard.App

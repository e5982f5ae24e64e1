import Storyboard.App.Basic

/-!
# Dispatching under a scheduler

A remote submit becomes a task. It starts when the scheduler comes to it, stays open
until its request is answered, and publishes what its follow-up leads to on its own.
`settle` lets the tasks run until none can move by itself.
-/
namespace Storyboard.App

/-- Performs an action and publishes its effects; a remote submit is left to the
scheduler. -/
def performScheduled (action : Action) (app : App) : App × Report :=
  let chain := app.performer.runFully action app.context
  let app := { app with context := chain.context, tasks := app.tasks.spawn chain.remote }
  let (app, report) := app.publish chain.effects
  (app, .said chain.notices ++ report)

/-- Makes a request and leaves it open. -/
def openCall (r : RemoteSubmit) (app : App) : App :=
  { app with
    calls := app.calls ++ [r]
    tasks := { app.tasks with openCalls := app.tasks.openCalls ++ [⟨app.calls.length, r⟩] } }

/-- Starts a submit: it makes its request, or waits for its endpoint. -/
def start (r : RemoteSubmit) (app : App) : App :=
  if app.settings.serializeSubmits then
    if app.tasks.held.contains r.endpoint then
      { app with tasks := { app.tasks with waiting := app.tasks.waiting ++ [r] } }
    else
      openCall r { app with tasks := { app.tasks with held := app.tasks.held ++ [r.endpoint] } }
  else openCall r app

/-- Lets go of the endpoint of a submit that was answered. -/
def release (r : RemoteSubmit) (app : App) : App :=
  if app.settings.serializeSubmits then { app with tasks := app.tasks.release r.endpoint } else app

/-- Runs the follow-up of a submit that was answered. -/
def conclude (r : RemoteSubmit) (outcome : Outcome) (app : App) : App × Report :=
  let app := app.release r
  let chain := app.performer.resume r outcome app.context
  let app := { app with context := chain.context, tasks := app.tasks.spawn chain.remote }
  let (app, report) := app.publish chain.effects
  (app, .said chain.notices ++ report)

/-- Handles one wake-up. -/
def handle (app : App) : Wakeup → App × Report
  | .start r => (app.start r, .silent)
  | .granted r => (app.openCall r, .silent)
  | .answered r outcome => app.conclude r outcome

/-- Handles wake-ups, at most a number of them. -/
def handleAll : Nat → App → App × Report
  | 0, app => (app, .silent)
  | fuel + 1, app =>
    match app.tasks.ready with
    | [] => (app, .silent)
    | wakeup :: rest =>
      let (app, report) := handle { app with tasks := { app.tasks with ready := rest } } wakeup
      let (app, others) := handleAll fuel app
      (app, report ++ others)

/-- Lets the tasks run until none can move by itself. -/
def settle (app : App) : App × Report := handleAll app.tasks.weight app

/-- Answers the call with a number and lets the tasks run; says whether it was open. -/
def answer (number : Nat) (outcome : Outcome) (app : App) : Bool × App × Report :=
  match app.tasks.answer? number outcome with
  | some tasks =>
    let (app, report) := settle { app with tasks }
    (true, app, report)
  | none => (false, app, .silent)

/-- Answers all open calls with success, again and again, at most a number of times. -/
def drainFor : Nat → App → App × Report
  | 0, app => (app, .silent)
  | fuel + 1, app =>
    if app.tasks.isBusy then
      let (app, report) := settle { app with tasks := app.tasks.answerAll }
      let (app, others) := drainFor fuel app
      (app, report ++ others)
    else (app, .silent)

/-- Answers all open calls with success until no submit is left. -/
def drain (app : App) : App × Report :=
  let (app, report) := app.settle
  let (app, others) := drainFor app.tasks.rounds app
  (app, report ++ others)

end Storyboard.App

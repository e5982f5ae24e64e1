import Storyboard.Action.Intake
import Storyboard.App.Inline
import Storyboard.App.Scheduled

/-!
# Dispatching

The two ways a host drives an app: `inline` completes every remote submit before the
dispatch returns, `scheduled` leaves it pending. What a host hands over is data, which
is taken in first; a button of a popup holds an action already.
-/
namespace Storyboard

/-- How remote submits are carried out. -/
inductive Carrier where
  | inline (submitter : Submitter)
  | scheduled

namespace App

/-- Performs an action at the start of a chain. -/
def perform (carrier : Carrier) (action : Action) (app : App) : App × Report :=
  match carrier with
  | .inline submitter => app.performInline submitter action
  | .scheduled => app.performScheduled action

/-- Dispatches what a host hands over as an action. Data that is refused changes
nothing. -/
def dispatch (carrier : Carrier) (data : Json) (app : App) : Except TagFault (App × Report) :=
  match Action.accept data with
  | .error fault => .error fault
  | .ok intake =>
    match intake.action with
    | none => .ok (app, .said intake.notices)
    | some action => .ok (app.perform carrier action)

/-- Dismisses the shown popup, then performs the action of the pressed button. -/
def dismiss (carrier : Carrier) (index : Int) (app : App) : App × Report :=
  match app.popups with
  | [] => (app, .silent)
  | shown :: rest =>
    let app := { app with popups := rest }
    match shown.action? index with
    | some action => app.perform carrier action
    | none => (app, .silent)

end App

end Storyboard

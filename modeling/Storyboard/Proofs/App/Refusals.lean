import Storyboard.Proofs.Action.Intake
import Storyboard.Proofs.App.History

/-!
# When a dispatch breaks off

A host dispatches actions, or data that is taken in first. Only data whose `type` is a
container breaks a dispatch off, before anything happened. Data that is refused changes
nothing; everything else is performed to its end, whatever the verifier and the other side do.
-/
namespace Storyboard

namespace App

/-- What a host hands over. -/
inductive Input where
  | action (a : Action)
  | data (v : Json)

namespace Input

/-- Dispatches what a host hands over. -/
def dispatch (carrier : Carrier) (app : App) : Input → Except TagFault (App × Report)
  | .action a => .ok (app.perform carrier a)
  | .data v => app.dispatch carrier v

/-- The operation of dispatching it. -/
def operation (carrier : Carrier) : Input → Operation
  | .action a => .perform carrier a
  | .data v => .dispatch carrier v

/-- Data whose `type` is a container with something in it. -/
def BreaksOff : Input → Prop
  | .action _ => False
  | .data v => v.HasContainerTag

/-- Data that is refused. -/
def IsRefused : Input → Prop
  | .action _ => False
  | .data v => Action.Refused v

/-- The action that is performed. -/
def Performs (a : Action) : Input → Prop
  | .action given => given = a
  | .data v => Action.ofJson v = .ok a

end Input

/-- A dispatch breaks off exactly for data whose `type` is a container with something in it,
and then nothing has changed. Otherwise it returns: for data that is refused with the app as
it was and nothing delivered, and else with the action performed. -/
theorem dispatch_breaks_off_iff (app : App) (carrier : Carrier) (input : Input) :
    ((∃ fault, input.dispatch carrier app = .error fault) ↔ input.BreaksOff) ∧
    (input.BreaksOff → (input.operation carrier).apply app = app) ∧
    (input.IsRefused → ∃ notices, input.dispatch carrier app = .ok (app, ⟨notices, []⟩)) ∧
    (¬ input.BreaksOff → ¬ input.IsRefused → ∃ a, input.Performs a ∧
      input.dispatch carrier app = .ok (app.perform carrier a)) := by
  cases input with
  | action a =>
    refine ⟨⟨fun hfault => ?_, False.elim⟩, False.elim, False.elim, fun _ _ => ⟨a, rfl, rfl⟩⟩
    obtain ⟨_, hfault⟩ := hfault
    cases hfault
  | data v =>
    have hverdict := Action.accept_verdict v
    simp only [Input.dispatch, Input.operation, Operation.apply, App.dispatch]
    generalize Action.accept v = result at hverdict ⊢
    cases hverdict with
    | beyond fault h =>
      refine ⟨⟨fun _ => h, fun _ => ⟨fault, rfl⟩⟩, fun _ => rfl, fun hrefused => ?_, fun hnot => ?_⟩
      · exact absurd h hrefused.not_containerTag
      · exact absurd h hnot
    | refused notices h =>
      refine ⟨⟨fun hfault => ?_, fun hbeyond => ?_⟩, fun _ => rfl, fun _ => ⟨notices, rfl⟩,
        fun _ hnot => ?_⟩
      · obtain ⟨_, hfault⟩ := hfault
        cases hfault
      · exact absurd hbeyond h.not_containerTag
      · exact absurd h hnot
    | taken a h =>
      refine ⟨⟨fun hfault => ?_, fun hbeyond => ?_⟩, fun hbeyond => ?_, fun hrefused => ?_,
        fun _ _ => ⟨a, h, rfl⟩⟩
      · obtain ⟨_, hfault⟩ := hfault
        cases hfault
      · exact absurd h (hbeyond.not_read a)
      · exact absurd h (Json.HasContainerTag.not_read hbeyond a)
      · exact absurd h (Action.Refused.not_read hrefused a)

end App

end Storyboard

import Storyboard.Action.Basic
import Mathlib.Data.List.Basic

/-!
# What stands inside an action

An action has follow-ups, of which it runs one at most, and a popup has actions behind
its buttons, which wait until one is pressed. A property that passes from what stands inside
to the action holds of all actions.
-/
namespace Storyboard.Action

/-- The follow-ups of an action. -/
def branches : Action → List Action
  | .submit a => a.onSuccess.toOption.toList ++ a.onError.toOption.toList
  | .login a => a.onError.toOption.toList
  | .signup a => a.onError.toOption.toList
  | .logout a => a.onSuccess.toOption.toList
  | _ => []

/-- The buttons of a popup. -/
def buttons : Action → List PopupButton
  | .popup a => a.buttons.toOption.getD []
  | _ => []

/-- The actions behind the buttons of a popup. -/
def presses (a : Action) : List Action := a.buttons.filterMap fun b => b.action.toOption

@[simp] theorem mem_branches_submit {a : Submit} {b : Action} :
    b ∈ (Action.submit a).branches ↔ b ∈ a.onSuccess.toOption ∨ b ∈ a.onError.toOption := by
  simp [branches]

@[simp] theorem mem_branches_login {a : SignIn} {b : Action} :
    b ∈ (Action.login a).branches ↔ b ∈ a.onError.toOption := by
  simp [branches]

@[simp] theorem mem_branches_signup {a : SignIn} {b : Action} :
    b ∈ (Action.signup a).branches ↔ b ∈ a.onError.toOption := by
  simp [branches]

@[simp] theorem mem_branches_logout {a : Logout} {b : Action} :
    b ∈ (Action.logout a).branches ↔ b ∈ a.onSuccess.toOption := by
  simp [branches]

theorem mem_presses {a b : Action} :
    b ∈ a.presses ↔ ∃ button ∈ a.buttons, b ∈ button.action.toOption := by
  simp [presses]

end Storyboard.Action

namespace Storyboard

/-- An action has the property if the actions inside it have it; the buttons of popups
have a property of their own. -/
structure Action.Hereditary (P : Action → Prop) (Q : PopupButton → Prop) : Prop where
  button : ∀ b : PopupButton, (∀ a ∈ b.action.toOption, P a) → Q b
  navigate : ∀ a, P (.navigate a)
  popup : ∀ a : Popup, (∀ bs ∈ a.buttons.toOption, ∀ b ∈ bs, Q b) → P (.popup a)
  goBack : ∀ a, P (.goBack a)
  submit : ∀ a : Submit, (∀ f ∈ a.onSuccess.toOption, P f) → (∀ f ∈ a.onError.toOption, P f) →
    P (.submit a)
  deleteRecord : ∀ a, P (.deleteRecord a)
  login : ∀ a : SignIn, (∀ f ∈ a.onError.toOption, P f) → P (.login a)
  signup : ∀ a : SignIn, (∀ f ∈ a.onError.toOption, P f) → P (.signup a)
  logout : ∀ a : Logout, (∀ f ∈ a.onSuccess.toOption, P f) → P (.logout a)
  setValue : ∀ a, P (.setValue a)
  openUrl : ∀ a, P (.openUrl a)

namespace Action.Hereditary

variable {P : Action → Prop} {Q : PopupButton → Prop}

mutual

theorem all (h : Hereditary P Q) : ∀ a, P a
  | .navigate a => h.navigate a
  | .popup ⟨_, _, _, buttons, _⟩ => h.popup _ (h.buttonSlot buttons)
  | .goBack a => h.goBack a
  | .submit ⟨_, _, _, _, _, _, onSuccess, onError, _⟩ =>
    h.submit _ (h.followUp onSuccess) (h.followUp onError)
  | .deleteRecord a => h.deleteRecord a
  | .login ⟨_, onError, _⟩ => h.login _ (h.followUp onError)
  | .signup ⟨_, onError, _⟩ => h.signup _ (h.followUp onError)
  | .logout ⟨onSuccess, _⟩ => h.logout _ (h.followUp onSuccess)
  | .setValue a => h.setValue a
  | .openUrl a => h.openUrl a

theorem allButtons (h : Hereditary P Q) : ∀ b, Q b
  | ⟨_, _, action, _⟩ => h.button _ (h.followUp action)

theorem buttonList (h : Hereditary P Q) : ∀ bs : List PopupButton, ∀ b ∈ bs, Q b
  | [] => nofun
  | b :: rest => List.forall_mem_cons.mpr ⟨h.allButtons b, h.buttonList rest⟩

theorem buttonSlot (h : Hereditary P Q) :
    ∀ s : Slot (List PopupButton), ∀ bs ∈ s.toOption, ∀ b ∈ bs, Q b
  | .value bs => fun _ hbs => by cases hbs; exact h.buttonList bs
  | .null => nofun
  | .absent => nofun

theorem followUp (h : Hereditary P Q) : ∀ s : Slot Action, ∀ a ∈ s.toOption, P a
  | .value a => fun _ ha => by cases ha; exact h.all a
  | .null => nofun
  | .absent => nofun

end

end Action.Hereditary

end Storyboard

import Storyboard.Exchange

/-!
# Effects

What an action asks of the host: a popup to show, an address to open.
-/
namespace Storyboard

/-- A button of a shown popup. -/
structure ShownButton where
  text : String
  style : Option ButtonStyle
  action : Option Action

structure ShownPopup where
  title : Option String
  message : String
  style : PopupStyle
  buttons : List ShownButton

inductive Effect where
  | popup (p : ShownPopup)
  | openUrl (url : String) (external : Bool)

namespace ShownButton

def ofButton : PopupButton → ShownButton
  | ⟨text, style, action, _⟩ => ⟨text, style.toOption, action.toOption⟩

/-- The button as hosts exchange it. -/
def exchanged (b : ShownButton) : Exchange.Button :=
  ⟨b.text, .ofOption b.style, .ofOption b.action⟩

end ShownButton

namespace ShownPopup

/-- The popup of an action. One without buttons gets a button to dismiss it. -/
def ofPopup (dismissText : String) : Popup → ShownPopup
  | ⟨title, message, style, buttons, _⟩ =>
    let shown := (buttons.toOption.getD []).map ShownButton.ofButton
    ⟨title.toOption, message, style.toOption.getD .alert,
      if shown.isEmpty then [⟨dismissText, none, none⟩] else shown⟩

/-- The popup as hosts exchange it. -/
def exchanged (p : ShownPopup) : Exchange.Popup :=
  ⟨true, .ofOption p.title, p.message, some p.style, some (p.buttons.map (·.exchanged))⟩

/-- The action of a button, counted from zero. -/
def action? (p : ShownPopup) (index : Int) : Option Action :=
  if 0 ≤ index then (p.buttons[index.toNat]?).bind (·.action) else none

end ShownPopup

namespace Effect

def popup? : Effect → Option ShownPopup
  | .popup p => some p
  | .openUrl .. => none

/-- An effect with all its fields. -/
def dump : Effect → Json
  | .popup p => p.exchanged.dump .complete
  | .openUrl url external => (Exchange.Link.mk true url (some external)).dump .complete

/-- Whether an effect can be dumped. -/
def fits : Effect → Bool
  | .popup p => p.exchanged.fits
  | .openUrl .. => true

end Effect

end Storyboard

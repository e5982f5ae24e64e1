import Storyboard.Action.Basic

/-!
# Levels of nesting

Every kind that can hold itself has a reader of its own, and the readers are
built one on top of the other in the order of `Scope`. Entering a nested value
costs a level; where its kind has a reader below the current one, that reader is
entered as well, which costs a second level, and is the current one from there
on. A document may use `nestingLimit` levels.
-/
namespace Storyboard

/-- The levels a document may use. -/
def nestingLimit : Nat := 255

/-- The readers of the kinds that can hold themselves, from the lowest up; `outside`
stands above all of them. -/
inductive Scope where
  | button
  | popup
  | submit
  | login
  | signup
  | logout
  | component
  | outside
  deriving DecidableEq, Repr

def Scope.rank : Scope → Nat
  | .button => 1
  | .popup => 2
  | .submit => 3
  | .login => 4
  | .signup => 5
  | .logout => 6
  | .component => 7
  | .outside => 8

/-- The reader of a kind of action that can hold actions. -/
def ActionKind.scope? : ActionKind → Option Scope
  | .popup => some .popup
  | .submit => some .submit
  | .login => some .login
  | .signup => some .signup
  | .logout => some .logout
  | _ => none

/-- The reader that is entered, beside the current one, with a nested action. -/
def Scope.entered? (scope : Scope) (kind : ActionKind) : Option Scope :=
  match kind.scope? with
  | some own => if own.rank < scope.rank then some own else none
  | none => none

/-- Whether values without a declared kind fit into the levels left. -/
def valueFits (levels : Nat) (v : Json) : Bool := v.height ≤ levels

def fieldsFit (levels : Nat) (fields : Assoc Json) : Bool := Json.heightFields fields ≤ levels

def slotFits (levels : Nat) : Slot (Assoc Json) → Bool
  | .value fields => fieldsFit levels fields
  | _ => true

def CredentialFields.fits (levels : Nat) (a : CredentialFields) : Bool :=
  1 ≤ levels && fieldsFit (levels - 1) a.extra

/-- The levels left and the current reader once an action of a kind is entered. -/
def Scope.enter (scope : Scope) (kind : ActionKind) (levels : Nat) : Option (Nat × Scope) :=
  match scope.entered? kind with
  | some inner => if 2 ≤ levels then some (levels - 2, inner) else none
  | none => if 1 ≤ levels then some (levels - 1, scope) else none

/-- Whether the values of an action that holds no actions fit. -/
def Scope.fits (scope : Scope) (kind : ActionKind) (levels : Nat) (content : Nat → Bool) : Bool :=
  match scope.enter kind levels with
  | some (levels, _) => content levels
  | none => false

mutual

/-- Whether an action and everything below it fits into the levels left. -/
def Action.fits (levels : Nat) (scope : Scope) : Action → Bool
  | .navigate a =>
    scope.fits .navigate levels fun l => slotFits l a.params && fieldsFit l a.extra
  | .goBack a => scope.fits .goBack levels fun l => fieldsFit l a.extra
  | .popup ⟨_, _, _, buttons, extra⟩ =>
    scope.fits .popup levels fun l => buttonSlotFits l buttons && fieldsFit l extra
  | .submit ⟨_, _, _, _, _, _, onSuccess, onError, extra⟩ =>
    match scope.enter .submit levels with
    | some (l, s) => followUpFits l s onSuccess && followUpFits l s onError && fieldsFit l extra
    | none => false
  | .deleteRecord a => scope.fits .deleteRecord levels fun l => fieldsFit l a.extra
  | .login ⟨fields, onError, extra⟩ =>
    match scope.enter .login levels with
    | some (l, s) => fields.fits l && followUpFits l s onError && fieldsFit l extra
    | none => false
  | .signup ⟨fields, onError, extra⟩ =>
    match scope.enter .signup levels with
    | some (l, s) => fields.fits l && followUpFits l s onError && fieldsFit l extra
    | none => false
  | .logout ⟨onSuccess, extra⟩ =>
    match scope.enter .logout levels with
    | some (l, s) => followUpFits l s onSuccess && fieldsFit l extra
    | none => false
  | .setValue a =>
    scope.fits .setValue levels fun l =>
      (match a.value with
        | some v => valueFits l v
        | none => true) && fieldsFit l a.extra
  | .openUrl a => scope.fits .openUrl levels fun l => fieldsFit l a.extra

/-- Whether everything below a button fits, the level of the button included. -/
def PopupButton.fits (levels : Nat) : PopupButton → Bool
  | ⟨_, _, action, extra⟩ =>
    1 ≤ levels && fieldsFit (levels - 1) extra && followUpFits (levels - 1) .button action

def buttonsFit (levels : Nat) : List PopupButton → Bool
  | [] => true
  | b :: rest => b.fits levels && buttonsFit levels rest

def buttonSlotFits (levels : Nat) : Slot (List PopupButton) → Bool
  | .value buttons => buttonsFit levels buttons
  | _ => true

def followUpFits (levels : Nat) (scope : Scope) : Slot Action → Bool
  | .value a => a.fits levels scope
  | _ => true

end

/-- Whether an action that stands on its own can be dumped; one that can hold itself
uses a level for itself. -/
def Action.fitsAlone (a : Action) : Bool :=
  match a.kind.scope? with
  | some own => a.fits nestingLimit own
  | none => a.fits (nestingLimit + 1) .outside

end Storyboard

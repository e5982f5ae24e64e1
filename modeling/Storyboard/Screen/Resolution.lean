import Storyboard.Notice
import Storyboard.Session

/-!
# Resolving screens

Which screen is seen when an id is asked for. The two built-in authentication
forms come first, then the screens of the document. A protected screen without a
session gives way to the redirect screen of the authentication settings; that is
one step, so the redirect screen is shown even if it is protected itself.
-/
namespace Storyboard

/-- The built-in forms. -/
inductive AuthForm where
  | login
  | signup
  deriving DecidableEq, Repr

def AuthForm.name : AuthForm → String
  | .login => "login"
  | .signup => "signup"

/-- Why nothing is shown. -/
inductive Unresolved where
  | noScreen
  | unknownScreen
  | authUnavailable
  deriving DecidableEq, Repr

def Unresolved.name : Unresolved → String
  | .noScreen => "no_screen"
  | .unknownScreen => "unknown_screen"
  | .authUnavailable => "auth_unavailable"

/-- What is seen, with the id that was resolved. -/
inductive View where
  | screen (id : String) (screen : Screen)
  | auth (id : String) (form : AuthForm)
  | unresolved (id : Option String) (reason : Unresolved)

namespace View

def kind : View → String
  | .screen .. => "screen"
  | .auth .. => "auth"
  | .unresolved .. => "unresolved"

def id : View → Option String
  | .screen id _ => some id
  | .auth id _ => some id
  | .unresolved id _ => id

def screen? : View → Option Screen
  | .screen _ s => some s
  | _ => none

def form? : View → Option AuthForm
  | .auth _ form => some form
  | _ => none

def reason? : View → Option Unresolved
  | .unresolved _ reason => some reason
  | _ => none

end View

/-- What is seen, and the id that was asked for when a redirect took place. -/
structure ResolvedScreen where
  view : View
  redirectedFrom : Option String

namespace Definition

/-- The view of an id, protection aside. -/
def view (d : Definition) (id : Option String) : View :=
  match id with
  | none => .unresolved none .noScreen
  | some id =>
    if id == "" then .unresolved (some id) .noScreen
    else if id == loginScreen then .auth id .login
    else if id == signupScreen then .auth id .signup
    else match d.screen? id with
      | some screen => .screen id screen
      | none => .unresolved (some id) .unknownScreen

/-- The screen seen for an id with or without a session. -/
def resolve (d : Definition) (id : Option String) (session : Option Session) :
    ResolvedScreen × List Notice :=
  match d.view id with
  | .screen id screen =>
    if !screen.isProtected || session.isSome then (⟨.screen id screen, none⟩, [])
    else match d.authentication with
      | none => (⟨.unresolved (some id) .authUnavailable, none⟩, [.noAuthentication id])
      | some auth => (⟨d.view (some auth.authRedirectScreen), some id⟩, [])
  | view => (⟨view, none⟩, [])

end Definition

end Storyboard

import Storyboard.Action.Basic
import Storyboard.Document.Basic
import Storyboard.Screen.Resolution

/-!
# The built-in authentication forms

What the two forms do when they are submitted, and how each leads to the other.
-/
namespace Storyboard

/-- The form fields of the built-in forms. -/
def authEmailField : String := "auth_email"

def authPasswordField : String := "auth_password"

namespace AuthForm

def other : AuthForm → AuthForm
  | .login => .signup
  | .signup => .login

def screenId : AuthForm → String
  | .login => loginScreen
  | .signup => signupScreen

/-- The popup for a form that was refused. -/
def refusal (form : AuthForm) : Action :=
  let (title, message) := match form with
    | .login => ("Login failed", "Invalid email or password.")
    | .signup => ("Signup failed", "This email is already in use.")
  .popup ⟨.value title, message, .absent, .absent, []⟩

/-- What submitting the form does. -/
def submit (form : AuthForm) : Action :=
  let signIn : SignIn := ⟨⟨authEmailField, authPasswordField, []⟩, .value form.refusal, []⟩
  match form with
  | .login => .login signIn
  | .signup => .signup signIn

/-- The way to the other form. -/
def switch (form : AuthForm) : Action :=
  .navigate ⟨form.other.screenId, .absent, .absent, []⟩

end AuthForm

end Storyboard

import Storyboard.Form
import Storyboard.Records.Store
import Storyboard.Session

/-!
# Contexts

What actions read and change: the records, the form, the session and the active
screen.
-/
namespace Storyboard

structure Context where
  store : Store
  supply : Supply
  form : Form
  session : Option Session
  screen : String

namespace Context

/-- A fresh context with an empty form and no session. -/
def start (store : Store) (supply : Supply) (screen : String) : Context :=
  ⟨store, supply, [], none, screen⟩

def navigate (c : Context) (screen : String) : Context := { c with screen }

/-- Replaces the session; there is one user at most. -/
def login (c : Context) (user : Record) : Context := { c with session := some ⟨user⟩ }

def logout (c : Context) : Context := { c with session := none }

/-- Logs a user in, goes to a screen and drops the form. -/
def enter (c : Context) (user : Record) (screen : String) : Context :=
  { (c.login user).navigate screen with form := [] }

end Context

end Storyboard

import Storyboard.Document.Reader
import Storyboard.Document.Writer

/-!
# Sessions

The session of a running app is the record of the user who is logged in.
-/
namespace Storyboard

structure Session where
  user : Assoc Json

namespace Session

/-- Reads a session; keys other than the user are dropped. -/
def ofJson : Json → Check Session :=
  Read.record "Session" fun o =>
    Session.mk <$> Read.required o (.plain "user") (Read.table Read.anything)

def dump (mode : Mode) (s : Session) : Json :=
  assemble mode [.always (.plain "user") (.obj (mode.anyFields s.user))] []

def fits (s : Session) : Bool := fieldsFit nestingLimit s.user

/-- What templates see as `session`. -/
def binding (s : Session) : Assoc Json := [("user", .obj s.user)]

end Session

end Storyboard

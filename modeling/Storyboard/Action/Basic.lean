import Storyboard.Schema.Field

/-!
# Actions

The closed set of things a component can trigger. Submits and the session
actions carry follow-ups, popup buttons carry actions of their own, so actions
nest. Every kind keeps the keys it does not know.
-/
namespace Storyboard

inductive ActionKind where
  | navigate
  | popup
  | goBack
  | submit
  | deleteRecord
  | login
  | signup
  | logout
  | setValue
  | openUrl
  deriving DecidableEq, Repr

namespace ActionKind

def all : List ActionKind :=
  [.navigate, .popup, .goBack, .submit, .deleteRecord, .login, .signup, .logout, .setValue,
   .openUrl]

/-- The tag of a kind in a document. -/
def tag : ActionKind → String
  | .navigate => "navigate"
  | .popup => "popup"
  | .goBack => "goBack"
  | .submit => "submit"
  | .deleteRecord => "deleteRecord"
  | .login => "auth:login"
  | .signup => "auth:signup"
  | .logout => "auth:logout"
  | .setValue => "setValue"
  | .openUrl => "openUrl"

def ofTag? (s : String) : Option ActionKind := all.find? fun k => k.tag == s

def tags : List String := all.map tag

end ActionKind

inductive Transition where
  | slide
  | fade
  | modal
  deriving DecidableEq, Repr

def Transition.all : List Transition := [.slide, .fade, .modal]

def Transition.name : Transition → String
  | .slide => "slide"
  | .fade => "fade"
  | .modal => "modal"

inductive PopupStyle where
  | alert
  | confirm
  | info
  deriving DecidableEq, Repr

def PopupStyle.all : List PopupStyle := [.alert, .confirm, .info]

def PopupStyle.name : PopupStyle → String
  | .alert => "alert"
  | .confirm => "confirm"
  | .info => "info"

inductive ButtonStyle where
  | primary
  | secondary
  | outline
  | text
  deriving DecidableEq, Repr

def ButtonStyle.all : List ButtonStyle := [.primary, .secondary, .outline, .text]

def ButtonStyle.name : ButtonStyle → String
  | .primary => "primary"
  | .secondary => "secondary"
  | .outline => "outline"
  | .text => "text"

inductive Method where
  | get
  | post
  | put
  | patch
  | delete
  deriving DecidableEq, Repr

def Method.all : List Method := [.get, .post, .put, .patch, .delete]

def Method.name : Method → String
  | .get => "GET"
  | .post => "POST"
  | .put => "PUT"
  | .patch => "PATCH"
  | .delete => "DELETE"

/-- Switches the active screen. -/
structure Navigate where
  target : String
  params : Slot (Assoc Json)
  transition : Slot Transition
  extra : Assoc Json

/-- Returns to the first screen. -/
structure GoBack where
  extra : Assoc Json

/-- The id of a record to delete. -/
inductive RecordId where
  | text (s : String)
  | whole (n : Int)
  deriving DecidableEq, Repr

def RecordId.toJson : RecordId → Json
  | .text s => .str s
  | .whole n => .int n

structure DeleteRecord where
  table : String
  recordId : RecordId
  extra : Assoc Json

/-- Sets one form value. -/
structure SetValue where
  targetId : String
  value : Option Json
  extra : Assoc Json

structure OpenUrl where
  url : String
  external : Slot Bool
  extra : Assoc Json

/-- The form fields that hold credentials; further keys name further fields. -/
structure CredentialFields where
  email : String
  password : String
  extra : Assoc Json

mutual

/-- Shows a popup. -/
structure Popup where
  title : Slot String
  message : String
  style : Slot PopupStyle
  buttons : Slot (List PopupButton)
  extra : Assoc Json

/-- A button of a popup, with the action it triggers. -/
structure PopupButton where
  text : String
  style : Slot ButtonStyle
  action : Slot Action
  extra : Assoc Json

/-- Sends form values to a table or to an endpoint. -/
structure Submit where
  target : Slot String
  endpoint : Slot String
  method : Slot Method
  headers : Slot (Assoc String)
  table : Slot String
  fields : Slot (Assoc String)
  onSuccess : Slot Action
  onError : Slot Action
  extra : Assoc Json

/-- Logs a user in, or signs one up. -/
structure SignIn where
  fields : CredentialFields
  onError : Slot Action
  extra : Assoc Json

structure Logout where
  onSuccess : Slot Action
  extra : Assoc Json

inductive Action where
  | navigate (a : Navigate)
  | popup (a : Popup)
  | goBack (a : GoBack)
  | submit (a : Submit)
  | deleteRecord (a : DeleteRecord)
  | login (a : SignIn)
  | signup (a : SignIn)
  | logout (a : Logout)
  | setValue (a : SetValue)
  | openUrl (a : OpenUrl)

end

def Action.kind : Action → ActionKind
  | .navigate _ => .navigate
  | .popup _ => .popup
  | .goBack _ => .goBack
  | .submit _ => .submit
  | .deleteRecord _ => .deleteRecord
  | .login _ => .login
  | .signup _ => .signup
  | .logout _ => .logout
  | .setValue _ => .setValue
  | .openUrl _ => .openUrl

namespace Submit

/-- Whether the values go to a table. -/
def isDatabase (a : Submit) : Bool := a.target.toOption == some "database"

/-- The endpoint of a remote submit: a named one, or a target that is neither of the
two reserved words. -/
def remoteEndpoint? (a : Submit) : Option String :=
  match a.endpoint.toOption with
  | some e => if e != "" then some e else fromTarget
  | none => fromTarget
where
  fromTarget : Option String :=
    match a.target.toOption with
    | some t => if t == "" || t == "database" || t == "api" then none else some t
    | none => none

end Submit

end Storyboard

import Storyboard.Action.Basic

/-!
# Documents

An app is described by one document: its metadata with theme, design tokens,
tables and authentication, its screens, and the screen shown first. Screens hold
components, components hold components. Every part keeps the keys it does not
know.
-/
namespace Storyboard

inductive ComponentType where
  | text
  | input
  | button
  | image
  | list
  | card
  | select
  | checkbox
  | container
  | divider
  | datepicker
  | timepicker
  deriving DecidableEq, Repr

namespace ComponentType

def all : List ComponentType :=
  [.text, .input, .button, .image, .list, .card, .select, .checkbox, .container, .divider,
   .datepicker, .timepicker]

def name : ComponentType → String
  | .text => "text"
  | .input => "input"
  | .button => "button"
  | .image => "image"
  | .list => "list"
  | .card => "card"
  | .select => "select"
  | .checkbox => "checkbox"
  | .container => "container"
  | .divider => "divider"
  | .datepicker => "datepicker"
  | .timepicker => "timepicker"

end ComponentType

inductive ColumnType where
  | string
  | number
  | boolean
  | date
  | time
  deriving DecidableEq, Repr

def ColumnType.all : List ColumnType := [.string, .number, .boolean, .date, .time]

def ColumnType.name : ColumnType → String
  | .string => "string"
  | .number => "number"
  | .boolean => "boolean"
  | .date => "date"
  | .time => "time"

/-- When a component is shown. -/
inductive ShowIf where
  | loggedIn
  | loggedOut
  deriving DecidableEq, Repr

def ShowIf.all : List ShowIf := [.loggedIn, .loggedOut]

def ShowIf.name : ShowIf → String
  | .loggedIn => "session.isLoggedIn"
  | .loggedOut => "session.isLoggedOut"

/-- A column of a table. -/
structure Column where
  type : ColumnType
  description : Slot String
  default : Option Json
  required : Slot Bool
  extra : Assoc Json

/-- A declared table. -/
structure Table where
  fields : Assoc Column
  description : Slot String
  extra : Assoc Json

/-- How users of the app log in. -/
structure Authentication where
  enabled : Bool
  userTable : String
  emailField : String
  passwordField : String
  postLoginScreen : String
  authRedirectScreen : String
  extra : Assoc Json

structure Theme where
  primaryColor : Slot String
  secondaryColor : Slot String
  backgroundColor : Slot String
  textColor : Slot String
  fontFamily : Slot String
  extra : Assoc Json

/-- The table a list shows. -/
structure DataSource where
  table : String
  filters : Slot (Assoc Json)
  orderBy : Slot String
  extra : Assoc Json

/-- A node of the component tree. -/
structure Component where
  type : ComponentType
  id : Slot String
  content : Slot String
  placeholder : Slot String
  action : Slot Action
  dataSource : Slot DataSource
  template : Option Json
  showIf : Slot ShowIf
  style : Slot (Assoc Json)
  children : Slot (List Component)
  components : Slot (List Component)
  extra : Assoc Json

/-- The components below a component, from both of its lists. -/
def Component.childComponents (c : Component) : List Component :=
  c.children.toOption.getD [] ++ c.components.toOption.getD []

structure Screen where
  id : Slot String
  title : Slot String
  requiresAuth : Option Bool
  components : Slot (List Component)
  layout : Option Json
  extra : Assoc Json

def Screen.childComponents (s : Screen) : List Component := s.components.toOption.getD []

/-- Whether a screen is shown to logged-in users only. -/
def Screen.isProtected (s : Screen) : Bool := s.requiresAuth.getD false

/-- The value of a design token. -/
inductive TokenValue where
  | text (s : String)
  | whole (n : Int)
  | real (x : Binary64)
  | flag (b : Bool)
  deriving DecidableEq, Repr

def TokenValue.toJson : TokenValue → Json
  | .text s => .str s
  | .whole n => .int n
  | .real x => .float x
  | .flag b => .bool b

structure Metadata where
  name : String
  theme : Slot Theme
  designTokens : Slot (Assoc TokenValue)
  databaseSchema : Slot (Assoc Table)
  authentication : Slot Authentication
  extra : Assoc Json

/-- An accepted document. -/
structure Definition where
  version : String
  app : Metadata
  screens : Assoc Screen
  initialScreen : String
  extra : Assoc Json

/-- The ids of the built-in login and signup screens. -/
def loginScreen : String := "auth:login"

def signupScreen : String := "auth:signup"

namespace Definition

def tokens (d : Definition) : Assoc Json :=
  Assoc.mapValues TokenValue.toJson (d.app.designTokens.toOption.getD [])

def authentication (d : Definition) : Option Authentication := d.app.authentication.toOption

def screen? (d : Definition) (id : String) : Option Screen := Assoc.get? d.screens id

def tableNames (d : Definition) : List String :=
  Assoc.keys (d.app.databaseSchema.toOption.getD [])

/-- Whether an id names a screen of the document or a built-in one. -/
def namesScreen (d : Definition) (id : String) : Bool :=
  Assoc.has d.screens id || id == loginScreen || id == signupScreen

end Definition

end Storyboard

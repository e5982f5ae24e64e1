import Storyboard.App.Chain
import Storyboard.App.Tasks
import Storyboard.Document.Validation
import Storyboard.Screen.Resolution

/-!
# Running apps

An `App` is a document with its context, the popups to be shown, the listeners, and
the submits that are pending. Every operation gives the app that follows and a
`Report` of what was said and what listeners received on the way.
-/
namespace Storyboard

/-- Someone who receives the effects of dispatches. One that does not accept a batch
fails, which is noticed and nothing more. -/
structure Listener where
  id : Nat
  accepts : List Effect → Bool

/-- A batch of effects that a listener received. -/
structure Delivery where
  listener : Nat
  batch : List Effect

structure Report where
  notices : List Notice
  deliveries : List Delivery

namespace Report

def silent : Report := ⟨[], []⟩

def said (notices : List Notice) : Report := ⟨notices, []⟩

def append (a b : Report) : Report := ⟨a.notices ++ b.notices, a.deliveries ++ b.deliveries⟩

instance : Append Report := ⟨append⟩

end Report

/-- A running app. -/
structure App where
  settings : Settings
  verifier : Verifier
  definition : Definition
  context : Context
  popups : List ShownPopup
  listeners : List Listener
  tasks : Tasks
  /-- Every request made so far, in order. -/
  calls : List RemoteSubmit

namespace App

def performer (app : App) : Performer := ⟨app.definition, app.verifier, app.settings⟩

/-- Why an app could not be started. -/
inductive StartFault where
  | breakdown (b : Breakdown)
  | invalid (issues : List Issue)
  | seed (stop : SeedStop)

/-- The wording for a value that is nested too deeply to be copied. -/
def tooDeepToCopyMessage : String := "maximum recursion depth exceeded"

def StartFault.message : StartFault → String
  | .breakdown b => b.message
  | .invalid issues =>
    "Application Definition is invalid (" ++ toString issues.length ++ " error(s))"
  | .seed (.refused e) => e.message
  | .seed .tooDeep => tooDeepToCopyMessage

/-- An app for an accepted document. Its declared tables exist from the start. -/
def ofDefinition (settings : Settings) (verifier : Verifier) (supply : Supply)
    (definition : Definition) (seed : Assoc Json) :
    Except (SeedStop × List Notice) (App × List Notice) :=
  match Store.ofSeed supply seed with
  | .error e => .error e
  | .ok seeded =>
    let store := seeded.store.ensureTables definition.tableNames
    .ok (⟨settings, verifier, definition,
      .start store seeded.supply definition.initialScreen, [], [], .none, []⟩, seeded.notices)

/-- An app for the text of a document, with the notices on the way. -/
def ofSource (settings : Settings) (verifier : Verifier) (supply : Supply) (source : Source)
    (seed : Assoc Json) : Except (StartFault × List Notice) (App × List Notice) :=
  match Validation.ofSource settings.maxDefinitionBytes source with
  | .error b => .error (.breakdown b, [])
  | .ok v =>
    match v.definition with
    | none => .error (.invalid v.errors, v.notices)
    | some definition =>
      match ofDefinition settings verifier supply definition seed with
      | .error (stop, notices) => .error (.seed stop, v.notices ++ notices)
      | .ok (app, notices) => .ok (app, v.notices ++ notices ++ settings.credentialNotices)

/-- The screen seen for an id with the session of the app. -/
def resolve (app : App) (id : Option String) : ResolvedScreen × List Notice :=
  app.definition.resolve id app.context.session

/-- The screen that is seen now. A redirect counts as a navigation: where it leads is
the active screen from then on. -/
def currentScreen (app : App) : ResolvedScreen × App × List Notice :=
  let (resolved, notices) := app.resolve (some app.context.screen)
  let target := match resolved.redirectedFrom, resolved.view.id with
    | some _, some id => if id == "" then app.context.screen else id
    | _, _ => app.context.screen
  (resolved, { app with context := app.context.navigate target }, notices)

/-- Hands a batch to the listeners, one after the other. -/
def deliver (batch : List Effect) : List Listener → Report
  | [] => .silent
  | l :: rest =>
    let here : Report :=
      if l.accepts batch then ⟨[], [⟨l.id, batch⟩]⟩ else .said [.listenerFailed]
    here ++ deliver batch rest

/-- Publishes effects: popups join the queue, and listeners receive the batch unless it
is empty. -/
def publish (app : App) (effects : List Effect) : App × Report :=
  ({ app with popups := app.popups ++ effects.filterMap Effect.popup? },
    if effects.isEmpty then .silent else deliver effects app.listeners)

def subscribe (app : App) (listener : Listener) : App :=
  { app with listeners := app.listeners ++ [listener] }

def unsubscribe (app : App) (id : Nat) : App :=
  { app with listeners := app.listeners.filter fun l => l.id != id }

/-- The popup that is shown. -/
def popup? (app : App) : Option ShownPopup := app.popups.head?

def setForm (app : App) (values : Json) : App × Option Form.PatchFault :=
  let (form, fault) := app.context.form.patch values
  ({ app with context := { app.context with form } }, fault)

/-- Why a value is no user to log in. -/
inductive LoginFault where
  | table (fault : Form.PatchFault)
  /-- A key of the user is no text. -/
  | keys (issues : List Issue)
  /-- The user has no `id` to ask for. -/
  | noTable (kind : String)

/-- The issues of the keys of a user that are no texts. -/
def keyIssues (user : Form) : List Issue :=
  user.filterMap fun (key, _) =>
    match key with
    | .id _ => none
    | .scalar v => some ⟨["user", v.placeText, "[key]"], .notText⟩

/-- Logs in the user a value describes. A list of pairs starts a session too, and then
turns out to be no table. -/
def login (app : App) (user : Json) : App × Option LoginFault :=
  match Form.table? user with
  | .error fault => (app, some (.table fault))
  | .ok form =>
    match keyIssues form with
    | [] =>
      ({ app with context := app.context.login form.toFields },
        if user.fields?.isSome then none else some (.noTable user.kindName))
    | issues => (app, some (.keys issues))

def logout (app : App) : App := { app with context := app.context.logout }

/-- The app with another document. Session, form and records stay; the active screen
stays if the document has it. -/
def withDefinition (app : App) (definition : Definition) : App :=
  let context := app.context
  let screen := if context.screen != "" && definition.namesScreen context.screen then context.screen
    else definition.initialScreen
  { app with
    definition
    context := { context with store := context.store.ensureTables definition.tableNames, screen } }

/-- Replaces the document by the one a text describes. A text that is refused changes
nothing. -/
def reload (app : App) (source : Source) : Except Breakdown (Validation × App × List Notice) :=
  match Validation.ofSource app.settings.maxDefinitionBytes source with
  | .error b => .error b
  | .ok v =>
    match v.definition with
    | none => .ok (v, app, v.notices ++ [.reloadRejected v.errors.length])
    | some definition => .ok (v, app.withDefinition definition, v.notices)

end App

end Storyboard

import Storyboard.App.Context
import Storyboard.App.Effect
import Storyboard.App.Remote
import Storyboard.Credentials

/-!
# Performing actions

One action at a time: what it does to the context, what it asks of the host, and
how the chain goes on. Follow-ups are not run here, so every action is one step
without recursion. A handler that fails midway is ended with a notice: what it wrote
before stays, and none of its follow-ups is next.
-/
namespace Storyboard

/-- What actions are performed with. -/
structure Performer where
  definition : Definition
  verifier : Verifier
  settings : Settings

/-- How a chain goes on behind an action. -/
inductive Next where
  | finished
  | follow (action : Action)
  | send (endpoint : String) (submit : Submit)

/-- What an action did. -/
structure Step where
  context : Context
  effects : List Effect
  notices : List Notice
  next : Next

namespace Next

/-- A follow-up that may be absent. -/
def ofSlot : Slot Action → Next
  | .value a => .follow a
  | _ => .finished

end Next

namespace Step

/-- A changed context and nothing else. -/
def changed (context : Context) : Step := ⟨context, [], [], .finished⟩

/-- A refusal: nothing changes, and the follow-up for errors is next. -/
def refused (context : Context) (notices : List Notice) (onError : Slot Action) : Step :=
  ⟨context, [], notices, .ofSlot onError⟩

/-- Nothing happens beside a notice. -/
def ignored (context : Context) (notice : Notice) : Step := ⟨context, [], [notice], .finished⟩

end Step

namespace Performer

/-- The record a submit makes: the form values of its fields. -/
def submittedRecord (form : Form) (fields : Assoc String) : Record :=
  fields.map fun (name, id) => (name, Form.value form id)

/-- Appends the form values of the fields to a table and empties those fields. The table
is created if the document declares it, before it is known whether the values can be
copied into it. -/
def submitToTable (p : Performer) (c : Context) (table : String) (fields : Assoc String)
    (onSuccess onError : Slot Action) : Step :=
  if !c.store.hasTable table && !p.definition.tableNames.contains table then
    .refused c [.submitUnknownTable table] onError
  else
    let store := c.store.ensureTables [table]
    match store.insert c.supply table (submittedRecord c.form fields) with
    | .error _ => .ignored { c with store } (.handlerFailed ActionKind.submit.tag)
    | .ok (row, store, supply) =>
      { context := { c with store, supply, form := c.form.clear (fields.map (·.2)) }
        effects := []
        notices := [.submitted (Record.id row) table]
        next := .ofSlot onSuccess }

def submit (p : Performer) (c : Context) (a : Submit) : Step :=
  match a with
  | ⟨_, _, _, _, table, fields, onSuccess, onError, _⟩ =>
    if a.isDatabase then
      match table.toOption, fields.toOption with
      | some table, some fields =>
        if table == "" || fields.isEmpty then .refused c [.submitIncomplete] onError
        else p.submitToTable c table fields onSuccess onError
      | _, _ => .refused c [.submitIncomplete] onError
    else match a.remoteEndpoint? with
      | some endpoint => ⟨c, [], [], .send endpoint a⟩
      | none => .refused c [.submitWithoutEndpoint] onError

def deleteRecord (c : Context) (a : DeleteRecord) : Step :=
  if c.store.hasTable a.table then
    .changed { c with store := (c.store.delete a.table a.recordId.toJson).2 }
  else .ignored c (.deleteUnknownTable a.table)

/-- What stands under a field of a record. -/
def column (r : Record) (field : String) : Json := (Assoc.get? r field).getD .null

/-- Whether a form value is filled in. -/
def isFilled : Json → Bool
  | .null => false
  | .str s => s != ""
  | _ => true

/-- The outcome of looking for the user who logs in. -/
inductive Search where
  | found (user : Record) (notices : List Notice)
  | nobody (notices : List Notice)
  | crashed (notices : List Notice)

/-- The first user with the email whose stored secret the verifier accepts. -/
def findUser (verifier : Verifier) (auth : Authentication) (email password : Json) :
    List Record → List Notice → Search
  | [], notices => .nobody notices
  | row :: rest, notices =>
    if (column row auth.emailField).same email then
      match verifier.compare password (column row auth.passwordField) with
      | .crashed => .crashed notices
      | .done true said => .found row (notices ++ said)
      | .done false said => findUser verifier auth email password rest (notices ++ said)
    else findUser verifier auth email password rest notices

def login (p : Performer) (c : Context) : SignIn → Step
  | ⟨fields, onError, _⟩ =>
    match p.definition.authentication with
    | none => .ignored c .loginUnavailable
    | some auth =>
      let email := Form.value c.form fields.email
      let password := Form.value c.form fields.password
      let search := if isFilled email then
          findUser p.verifier auth email password (c.store.rows auth.userTable) []
        else .nobody []
      match search with
      | .found user notices => ⟨c.enter user auth.postLoginScreen, [], notices, .finished⟩
      | .nobody notices => .refused c (notices ++ [.loginFailed]) onError
      | .crashed notices =>
        ⟨c, [], notices ++ [.handlerFailed ActionKind.login.tag], .finished⟩

/-- The form value of a further field of a signup. A field id that is a container cannot
be looked up. -/
def extraValue? (form : Form) (id : Json) : Option Json :=
  (Form.Key.ofJson? id).map fun key => (form.get? key).getD .null

/-- Adds the further fields of a signup to a user. -/
def addExtra (form : Form) : Record → List (String × Json) → Option Record
  | user, [] => some user
  | user, (key, id) :: rest =>
    (extraValue? form id).bind fun v => addExtra form (Assoc.put user key v) rest

/-- Why a signup makes no user. -/
inductive SignupFault where
  | rejected (reason : String)
  | crashed

/-- The record of a new user: email, stored secret, further fields. The fields are dumped
first, which fails where a further key holds what is nested too deeply; so does the text of
such a password. -/
def newUser (verifier : Verifier) (auth : Authentication) (form : Form) (fields : CredentialFields)
    (email password : Json) : Except SignupFault Record :=
  if !(fieldsFit nestingLimit fields.extra && password.shows) then .error .crashed
  else match verifier.store password.display with
  | .rejected reason => .error (.rejected reason)
  | .crashed => .error .crashed
  | .stored secret =>
    let user := Assoc.put [(auth.emailField, email)] auth.passwordField (.str secret)
    match addExtra form user fields.extra with
    | some user => .ok user
    | none => .error .crashed

def signup (p : Performer) (c : Context) : SignIn → Step
  | ⟨fields, onError, _⟩ =>
    match p.definition.authentication with
    | none => .ignored c .signupUnavailable
    | some auth =>
      let email := Form.value c.form fields.email
      let password := Form.value c.form fields.password
      let taken (row : Record) : Bool := (column row auth.emailField).same email
      if !isFilled email || !isFilled password then .refused c [.signupIncomplete] onError
      else if ((c.store.rows auth.userTable).any taken) then .refused c [.signupDuplicate] onError
      else match newUser p.verifier auth c.form fields email password with
        | .error (.rejected reason) => .refused c [.signupRejected reason] onError
        | .error .crashed => .ignored c (.handlerFailed ActionKind.signup.tag)
        | .ok user =>
          let store := c.store.ensureTables [auth.userTable]
          match store.insert c.supply auth.userTable user with
          | .error _ => .ignored { c with store } (.handlerFailed ActionKind.signup.tag)
          | .ok (row, store, supply) =>
            .changed (({ c with store, supply } : Context).enter row auth.postLoginScreen)

def logout (p : Performer) (c : Context) : Logout → Step
  | ⟨.value a, _⟩ => ⟨c.logout, [], [], .follow a⟩
  | _ => .changed (c.logout.navigate p.definition.initialScreen)

/-- Performs one action. -/
def perform (p : Performer) (c : Context) : Action → Step
  | .navigate a => .changed (c.navigate a.target)
  | .goBack _ => .changed (c.navigate p.definition.initialScreen)
  | .popup a => ⟨c, [.popup (.ofPopup p.settings.defaultButtonText a)], [], .finished⟩
  | .openUrl a => ⟨c, [.openUrl a.url (a.external.toOption.getD false)], [], .finished⟩
  | .setValue a =>
    .changed { c with form := c.form.put (.id a.targetId) (a.value.getD .null) }
  | .submit a => p.submit c a
  | .deleteRecord a => deleteRecord c a
  | .login a => p.login c a
  | .signup a => p.signup c a
  | .logout a => p.logout c a

end Performer

end Storyboard

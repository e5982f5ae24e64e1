import Storyboard.Action.Nesting

/-!
# Reading actions

The kind of an action is found first, from its `type`; then its fields are read.
The path to an issue inside an action holds the tag of the action.
-/
namespace Storyboard

/-- The name of a kind in messages. -/
def ActionKind.title : ActionKind → String
  | .navigate => "NavigateAction"
  | .popup => "PopupAction"
  | .goBack => "GoBackAction"
  | .submit => "SubmitAction"
  | .deleteRecord => "DeleteRecordAction"
  | .login => "LoginAction"
  | .signup => "SignupAction"
  | .logout => "LogoutAction"
  | .setValue => "SetValueAction"
  | .openUrl => "OpenUrlAction"

namespace Keys

def type : Key := .plain "type"
def onSuccess : Key := ⟨"onSuccess", "on_success"⟩
def onError : Key := ⟨"onError", "on_error"⟩
def recordId : Key := ⟨"recordId", "record_id"⟩
def targetId : Key := ⟨"targetId", "target_id"⟩

/-- The declared fields of each kind of action, in order. -/
def ofAction : ActionKind → List Key
  | .navigate => [type, .plain "target", .plain "params", .plain "transition"]
  | .popup => [type, .plain "title", .plain "message", .plain "variant", .plain "buttons"]
  | .goBack => [type]
  | .submit =>
    [type, .plain "target", .plain "endpoint", .plain "method", .plain "headers", .plain "table",
     .plain "fields", onSuccess, onError]
  | .deleteRecord => [type, .plain "table", recordId]
  | .login => [type, .plain "fields", onError]
  | .signup => [type, .plain "fields", onError]
  | .logout => [type, onSuccess]
  | .setValue => [type, targetId, .plain "value"]
  | .openUrl => [type, .plain "url", .plain "external"]

def button : List Key := [.plain "text", .plain "variant", .plain "action"]

def credentials : List Key := [.plain "email", .plain "password"]

end Keys

namespace Action

/-- The kind of an action and its fields. -/
def tagged : Json → Check (ActionKind × Assoc Json)
  | .obj fields =>
    match Assoc.get? fields "type" with
    | none => .fail .tagMissing
    | some tag =>
      match tag.str?.bind ActionKind.ofTag? with
      | some kind => .ok (kind, fields)
      | none => .fail (.tagUnknown tag.display ActionKind.tags)
  | _ => .fail .notTagged

/-- A text or a whole number; the issues of both readings when neither succeeds. -/
def recordId (v : Json) : Check RecordId :=
  match Read.text v with
  | .ok s => .ok (.text s)
  | .bad asText =>
    match Read.whole v with
    | .ok n => .ok (.whole n)
    | .bad asWhole =>
      Check.bad ((asText.map fun i => ⟨"str" :: i.path, i.problem⟩) ++
        asWhole.map fun i => ⟨"int" :: i.path, i.problem⟩)

def credentialFields (v : Json) : Check CredentialFields :=
  match Read.object "LoginFields" v with
  | .bad e => .bad e
  | .ok o =>
    (fun email password => ⟨email, password, extraFields Keys.credentials o⟩)
      <$> Read.required o (.plain "email") Read.text
      <*> Read.required o (.plain "password") Read.text

/-- The readers for what stands inside an action. -/
structure Inner where
  followUp : Json → Check Action
  button : Json → Check PopupButton
  credentials : Json → Check CredentialFields

/-- `press` reads the action of a button; without a level left there is none. -/
def readButton (press : Option (Json → Check Action)) (v : Json) : Check PopupButton :=
  match press with
  | none => .fail .tooDeep
  | some press =>
    match Read.object "PopupButton" v with
    | .bad e => .bad e
    | .ok o =>
      (fun text style action => ⟨text, style, action, extraFields Keys.button o⟩)
        <$> Read.required o (.plain "text") Read.text
        <*> Read.slot o (.plain "variant") (Read.choice ButtonStyle.all ButtonStyle.name)
        <*> Read.slot o (.plain "action") press

def Inner.of (followUp : Json → Check Action) (press : Option (Json → Check Action)) : Inner where
  followUp := followUp
  button := readButton press
  credentials := match press with
    | some _ => credentialFields
    | none => fun _ => .fail .tooDeep

/-- Reads the fields of an action of a known kind. -/
def readAs (inner : Inner) (kind : ActionKind) (o : Assoc Json) : Check Action :=
  let extra := extraFields (Keys.ofAction kind) o
  let tag := Read.optional o Keys.type (Read.choice [kind] ActionKind.tag)
  match kind with
  | .navigate =>
    (fun _ target params transition => .navigate ⟨target, params, transition, extra⟩)
      <$> tag
      <*> Read.required o (.plain "target") Read.text
      <*> Read.slot o (.plain "params") (Read.table Read.anything)
      <*> Read.slot o (.plain "transition") (Read.choice Transition.all Transition.name)
  | .popup =>
    (fun _ title message style buttons => .popup ⟨title, message, style, buttons, extra⟩)
      <$> tag
      <*> Read.slot o (.plain "title") Read.text
      <*> Read.required o (.plain "message") Read.text
      <*> Read.slot o (.plain "variant") (Read.choice PopupStyle.all PopupStyle.name)
      <*> Read.slot o (.plain "buttons") (Read.list inner.button)
  | .goBack => (fun _ => .goBack ⟨extra⟩) <$> tag
  | .submit =>
    (fun _ target endpoint method headers table fields onSuccess onError =>
      .submit ⟨target, endpoint, method, headers, table, fields, onSuccess, onError, extra⟩)
      <$> tag
      <*> Read.slot o (.plain "target") Read.text
      <*> Read.slot o (.plain "endpoint") Read.text
      <*> Read.slot o (.plain "method") (Read.choice Method.all Method.name)
      <*> Read.slot o (.plain "headers") (Read.table Read.text)
      <*> Read.slot o (.plain "table") Read.text
      <*> Read.slot o (.plain "fields") (Read.table Read.text)
      <*> Read.slot o Keys.onSuccess inner.followUp
      <*> Read.slot o Keys.onError inner.followUp
  | .deleteRecord =>
    (fun _ table id => .deleteRecord ⟨table, id, extra⟩)
      <$> tag
      <*> Read.required o (.plain "table") Read.text
      <*> Read.required o Keys.recordId recordId
  | .login =>
    (fun _ fields onError => .login ⟨fields, onError, extra⟩)
      <$> tag
      <*> Read.required o (.plain "fields") inner.credentials
      <*> Read.slot o Keys.onError inner.followUp
  | .signup =>
    (fun _ fields onError => .signup ⟨fields, onError, extra⟩)
      <$> tag
      <*> Read.required o (.plain "fields") inner.credentials
      <*> Read.slot o Keys.onError inner.followUp
  | .logout =>
    (fun _ onSuccess => .logout ⟨onSuccess, extra⟩)
      <$> tag
      <*> Read.slot o Keys.onSuccess inner.followUp
  | .setValue =>
    (fun _ target value => .setValue ⟨target, value, extra⟩)
      <$> tag
      <*> Read.required o Keys.targetId Read.text
      <*> Read.optional o (.plain "value") Read.anything
  | .openUrl =>
    (fun _ url external => .openUrl ⟨url, external, extra⟩)
      <$> tag
      <*> Read.required o (.plain "url") Read.text
      <*> Read.slot o (.plain "external") Read.flag

/-- Reads an action with a number of levels left. -/
def read : Nat → Scope → Json → Check Action
  | levels, scope, v =>
    match tagged v with
    | .bad e => .bad e
    | .ok (kind, o) =>
      Check.under kind.tag <|
        match scope.entered? kind, levels with
        | none, 1 => readAs (.of (read 0 scope) none) kind o
        | none, levels + 2 =>
          readAs (.of (read (levels + 1) scope) (some (read levels .button))) kind o
        | some scope, 2 => readAs (.of (read 0 scope) none) kind o
        | some scope, levels + 3 =>
          readAs (.of (read (levels + 1) scope) (some (read levels .button))) kind o
        | _, _ => .fail .tooDeep

/-- Reads an action that stands on its own. -/
def ofJson (v : Json) : Check Action := read nestingLimit .outside v

/-- Reads an action whose kind is known. -/
def ofJsonAs (kind : ActionKind) (v : Json) : Check Action :=
  match Read.object kind.title v with
  | .bad e => .bad e
  | .ok o =>
    let scope := kind.scope?.getD .outside
    readAs (.of (read 254 scope) (some (read 253 .button))) kind o

/-- Reads a popup button that stands on its own. -/
def buttonOfJson (v : Json) : Check PopupButton := readButton (some (read 254 .button)) v

end Action

end Storyboard

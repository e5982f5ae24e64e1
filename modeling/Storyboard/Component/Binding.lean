import Storyboard.Action.Writer
import Storyboard.Json.Elements
import Storyboard.Records.Store
import Storyboard.Session
import Storyboard.Template.Bindings
import Storyboard.Template.Sharing

/-!
# Binding components

What a component shows at a given moment: whether it is seen at all, its
properties with tokens and templates resolved, and the items of a list. A list
without a data source shows its own items; one with a data source shows a template
once for each record of the table.

An item that is an object gets the id of its record. Where the template stands for
an object of the session, this object itself gets the id of the first record, so
binding has the session afterwards as a result too. What was inserted before it is
seen as it is `later`.
-/
namespace Storyboard

/-- Why the items of a list could not be made. -/
inductive BindFault where
  | notIterable (kind : String)
  | notSubscriptable (kind : String)
  | missingKey
  deriving DecidableEq, Repr

def BindFault.message : BindFault → String
  | .notIterable kind => "'" ++ kind ++ "' object is not iterable"
  | .notSubscriptable kind => "'" ++ kind ++ "' object is not subscriptable"
  | .missingKey => "0"

/-- What templates see of a session and a record. -/
def bindingContext (session : Option Session) (record : Record) : Json :=
  .obj (bindings (session.map Session.binding) record [])

namespace Component

def isVisible (c : Component) (session : Option Session) : Bool :=
  match c.showIf with
  | .value .loggedIn => session.isSome
  | .value .loggedOut => session.isNone
  | _ => true

/-- The components among some that are seen. -/
def visible (session : Option Session) (cs : List Component) : List Component :=
  cs.filter fun c => c.isVisible session

def isBound (c : Component) : Bool := c.dataSource.toOption.isSome

/-- The keys whose values are handed on as they are written. -/
def verbatimKeys (c : Component) : List String :=
  ["type", "id", "showIf", "dataSource", "itemAction"] ++
    (if c.isBound then ["items", "template"] else [])

/-- The component without what is triggered or rendered on its own. -/
def bare (c : Component) : Component :=
  { c with action := .absent, children := .absent, components := .absent }

/-- The properties of a component, tokens and templates resolved; there are none for a
component that is nested too deeply. -/
def props? (c : Component) (tokens : Assoc Json) (context later : Json) : Option (Assoc Json) :=
  if c.bare.fits nestingLimit then
    some <| ((c.bare.dump .asWritten).fields?.getD []).map fun (key, v) =>
      (key, if c.verbatimKeys.contains key then v else resolveSeen context later tokens v)
  else none

/-- The items a component is written with; what is falsy counts as none. -/
def ownItems (c : Component) : Json :=
  match Assoc.get? c.extra "items" with
  | some v => if v.truthy then v else .arr []
  | none => .arr []

/-- The items of a list without a data source. -/
def staticItems (c : Component) (tokens : Assoc Json) (session later : Option Session) :
    Except BindFault (List Json) :=
  match c.ownItems.elements? with
  | some items =>
    .ok (items.map (resolveSeen (bindingContext session []) (bindingContext later []) tokens))
  | none => .error (.notIterable c.ownItems.kindName)

/-- The template of an item: the declared one, else the first of the own items. A
template that is `null` is none. -/
def itemTemplate (c : Component) : Except BindFault (Option Json) :=
  match c.template with
  | some v => if v.isNull then firstItem else .ok (some v)
  | none => firstItem
where
  firstItem : Except BindFault (Option Json) :=
    match c.ownItems with
    | .arr items => .ok (items.head?.filter fun v => !v.isNull)
    | .str s => .ok ((s.toList.head?).map fun c => .str (String.singleton c))
    | .obj fields => if fields.isEmpty then .ok none else .error .missingKey
    | v => .error (.notSubscriptable v.kindName)

/-- An object with an id, unless it has one; other values stay as they are. -/
def withId (id : Json) : Json → Json
  | .obj fields => .obj (if Assoc.has fields "id" then fields else Assoc.put fields "id" id)
  | v => v

/-- One record shown through a template. -/
def boundItem (tokens : Assoc Json) (session later : Option Session) (template : Json)
    (record : Record) : Json :=
  withId (Record.id record)
    (resolveSeen (bindingContext session record) (bindingContext later record) tokens template)

/-- The steps from the user to the part of the session that a template stands for. -/
def sessionSteps? (tokens : Assoc Json) (template : Json) : Option (List (List Char)) := do
  let .str written := template | none
  let .str s := Token.resolveString tokens written | none
  match Path.steps (← Template.wholePath? s) with
  | root :: user :: rest =>
    if String.ofList root == "session" && String.ofList user == "user" then some rest else none
  | _ => none

/-- A session in which the part at the end of some steps got an id. -/
def markSession (id : Json) (steps : List (List Char)) (session : Session) : Session :=
  match Path.change (withId id) steps (.obj session.user) with
  | .obj user => ⟨user⟩
  | _ => session

/-- What binding a list came to. -/
structure Bound where
  items : Except BindFault (List Json)
  notices : List Notice
  /-- The session afterwards. -/
  session : Option Session

/-- The items that show records through a template. The user as a whole is a copy, so
its id stays within the items. -/
def showRecords (tokens : Assoc Json) (session later : Option Session) (template : Json)
    (records : List Record) : List Json × Option Session :=
  match sessionSteps? tokens template, records.head? with
  | some steps, some first =>
    let mark := markSession (Record.id first) steps
    (records.map (boundItem tokens (session.map mark) (later.map mark) template),
      if steps.isEmpty then session else session.map mark)
  | _, _ => (records.map (boundItem tokens session later template), session)

/-- The query of a data source. -/
def sourceQuery (source : DataSource) (tokens : Assoc Json) (session : Option Session) :
    Store.Query where
  filter := ((resolveValue (bindingContext session []) tokens
    (.obj (source.filters.toOption.getD []))).fields?).getD []
  order := source.orderBy.toOption.bind SortOrder.ofText?
  limit := none

/-- Binds a list; what it shares with the session is seen as it is `later`. -/
def bind (c : Component) (store : Store) (tokens : Assoc Json) (session later : Option Session) :
    Bound :=
  match c.dataSource.toOption with
  | none => ⟨c.staticItems tokens session later, [], session⟩
  | some source =>
    let (records, notices) := store.query source.table (sourceQuery source tokens session)
    match c.itemTemplate with
    | .error fault => ⟨.error fault, notices, session⟩
    | .ok none => ⟨.ok (records.map .obj), notices, session⟩
    | .ok (some template) =>
      let (items, after) := showRecords tokens session later template records
      ⟨.ok items, notices, after⟩

/-- The items of a list on its own, with the notices of its query. -/
def items (c : Component) (store : Store) (tokens : Assoc Json) (session : Option Session) :
    Except BindFault (List Json) × List Notice :=
  let bound := c.bind store tokens session (c.bind store tokens session session).session
  (bound.items, bound.notices)

end Component

end Storyboard

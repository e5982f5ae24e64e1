import Storyboard.App.Basic
import Storyboard.Component.Binding

/-!
# Rendering

The tree of what is seen on a screen: for each visible component its properties, the
items of a list, and the visible components below it.
-/
namespace Storyboard

/-- What is seen of a component. -/
inductive Rendered where
  | node (props : Assoc Json) (items : Option (List Json)) (children : List Rendered)

/-- Why a screen could not be rendered. -/
inductive RenderFault where
  | tooDeep
  | binding (fault : BindFault)
  deriving DecidableEq, Repr

/-- What rendering reads. -/
structure Surroundings where
  store : Store
  tokens : Assoc Json
  /-- The session when everything is rendered. -/
  later : Option Session

/-- What a part of rendering came to: a result, the notices on the way, and the session
afterwards. -/
structure RenderOutcome (α : Type) where
  result : Except RenderFault α
  notices : List Notice
  session : Option Session

/-- A part of rendering, from the session before it. -/
abbrev Rendering (α : Type) := Option Session → RenderOutcome α

namespace Rendering

variable {α β : Type}

/-- Goes on with a result; notices add up, and a fault ends the rendering. -/
def andThen (x : Rendering α) (f : α → Rendering β) : Rendering β := fun session =>
  match x session with
  | ⟨.error fault, notices, after⟩ => ⟨.error fault, notices, after⟩
  | ⟨.ok a, notices, after⟩ =>
    let rest := f a after
    { rest with notices := notices ++ rest.notices }

def ok (a : α) : Rendering α := fun session => ⟨.ok a, [], session⟩

end Rendering

namespace Surroundings

/-- The items of a list component; other components have none. -/
def listItems (s : Surroundings) (c : Component) : Rendering (Option (List Json)) :=
  if c.type = .list then fun session =>
    let bound := c.bind s.store s.tokens session s.later
    ⟨(bound.items.map some).mapError .binding, bound.notices, bound.session⟩
  else .ok none

def props (s : Surroundings) (c : Component) : Rendering (Assoc Json) := fun session =>
  match c.props? s.tokens (bindingContext session []) (bindingContext s.later []) with
  | some props => ⟨.ok props, [], session⟩
  | none => ⟨.error .tooDeep, [], session⟩

mutual

/-- Renders a component that is seen. -/
def render (s : Surroundings) : Component → Rendering Rendered
  | ⟨type, id, content, placeholder, action, source, template, showIf, style, children, components,
      extra⟩ =>
    let c : Component := ⟨type, id, content, placeholder, action, source, template, showIf, style,
      .absent, .absent, extra⟩
    (s.props c).andThen fun props =>
    (s.listItems c).andThen fun items =>
    (renderSlot s children).andThen fun first =>
    (renderSlot s components).andThen fun second =>
      .ok (.node props items (first ++ second))

/-- Renders the components of a list that are seen. -/
def renderAll (s : Surroundings) : List Component → Rendering (List Rendered)
  | [] => .ok []
  | c :: rest =>
    if c.isVisible s.later then
      (render s c).andThen fun here => (renderAll s rest).andThen fun others => .ok (here :: others)
    else renderAll s rest

def renderSlot (s : Surroundings) : Slot (List Component) → Rendering (List Rendered)
  | .value cs => renderAll s cs
  | _ => .ok []

end

/-- Renders components from a session; what is shared with it shows its last state. -/
def renderFrom (session : Option Session) (store : Store) (tokens : Assoc Json)
    (cs : List Component) : RenderOutcome (List Rendered) :=
  let later := (renderAll ⟨store, tokens, session⟩ cs session).session
  renderAll ⟨store, tokens, later⟩ cs session

end Surroundings

/-- Renders the current screen; there is nothing to render when no screen of the
document is seen. -/
def App.render (app : App) : Except RenderFault (Option (List Rendered)) × App × List Notice :=
  let (resolved, app, notices) := app.currentScreen
  match resolved.view.screen? with
  | none => (.ok none, app, notices)
  | some screen =>
    let outcome := Surroundings.renderFrom app.context.session app.context.store
      app.definition.tokens screen.childComponents
    (outcome.result.map some,
      { app with context := { app.context with session := outcome.session } },
      notices ++ outcome.notices)

end Storyboard

import Storyboard.Document.Validation
import Storyboard.Schema.Finding
import Storyboard.Screen.Resolution

/-!
# What hosts exchange

Effects, the reports of a check of references and of a validation, and the screen that is
seen, as objects that a host may be handed or may write down itself. Each field remembers
whether it was given; keys that are no field are dropped. Unlike in a resolution, the
fields of a seen screen are independent of each other.
-/
namespace Storyboard.Exchange

/-- A button of a popup. -/
structure Button where
  text : String
  style : Slot ButtonStyle
  action : Slot Action

/-- A popup. Without a style it is an alert. -/
structure Popup where
  /-- Whether the kind of the effect was written. -/
  marked : Bool
  title : Slot String
  message : String
  style : Option PopupStyle
  buttons : Option (List Button)

/-- An address to open. -/
structure Link where
  marked : Bool
  url : String
  external : Option Bool

/-- The mark of a kind of effect, if it is there. -/
def mark (kind : String) (o : Assoc Json) : Check Bool :=
  (·.isSome) <$> Read.optional o (.plain "kind") (Read.choice [kind] id)

namespace Button

def ofJson : Json → Check Button :=
  Read.record "PopupButtonEffect" fun o =>
    Button.mk <$> Read.required o (.plain "text") Read.text
      <*> Read.slot o (.plain "variant") (Read.choice ButtonStyle.all ButtonStyle.name)
      <*> Read.slot o (.plain "action") Action.ofJson

def dump (mode : Mode) (b : Button) : Json :=
  assemble mode
    [.always (.plain "text") (.str b.text),
     .ofSlot (.plain "variant") (fun s => .str s.name) b.style,
     .ofSlot (.plain "action") (Action.dump mode) b.action] []

/-- Whether a button can be dumped. -/
def fits (b : Button) : Bool := followUpFits nestingLimit .outside b.action

end Button

namespace Popup

def kind : String := "popup"

def ofJson : Json → Check Popup :=
  Read.record "PopupEffect" fun o =>
    Popup.mk <$> mark kind o
      <*> Read.slot o (.plain "title") Read.text
      <*> Read.required o (.plain "message") Read.text
      <*> Read.optional o (.plain "variant") (Read.choice PopupStyle.all PopupStyle.name)
      <*> Read.optional o (.plain "buttons") (Read.list Button.ofJson)

def dump (mode : Mode) (p : Popup) : Json :=
  assemble mode
    [⟨.plain "kind", p.marked, .str kind⟩,
     .ofSlot (.plain "title") .str p.title,
     .always (.plain "message") (.str p.message),
     .ofOption (.plain "variant") (fun s => .str s.name) (.str PopupStyle.alert.name) p.style,
     .ofOption (.plain "buttons") (fun bs => .arr (bs.map (·.dump mode))) (.arr []) p.buttons] []

/-- Whether a popup can be dumped. -/
def fits (p : Popup) : Bool := (p.buttons.getD []).all Button.fits

end Popup

namespace Link

def kind : String := "openUrl"

def ofJson : Json → Check Link :=
  Read.record "OpenUrlEffect" fun o =>
    Link.mk <$> mark kind o
      <*> Read.required o (.plain "url") Read.text
      <*> Read.optional o (.plain "external") Read.flag

def dump (mode : Mode) (l : Link) : Json :=
  assemble mode
    [⟨.plain "kind", l.marked, .str kind⟩,
     .always (.plain "url") (.str l.url),
     .ofOption (.plain "external") .bool (.bool false) l.external] []

end Link

/-- The names a document uses without saying what they stand for. -/
structure Dangling where
  screens : Option (List String)
  tables : Option (List String)
  tokens : Option (List String)
  findings : Option (List Finding)

/-- The outcome of a validation. -/
structure Verdict where
  definition : Slot Definition
  errors : Option (List Finding)
  warnings : Option (List Finding)

/-- A list on its way out, empty when it was left out. -/
def listEntry {α : Type} (name : String) (dump : α → Json) (list : Option (List α)) : Entry :=
  .ofOption (.plain name) (fun xs => .arr (xs.map dump)) (.arr []) list

namespace Dangling

def ofJson : Json → Check Dangling :=
  Read.record "ReferenceReport" fun o =>
    Dangling.mk <$> Read.optional o (.plain "missing_screens") (Read.list Read.text)
      <*> Read.optional o (.plain "missing_tables") (Read.list Read.text)
      <*> Read.optional o (.plain "missing_tokens") (Read.list Read.text)
      <*> Read.optional o (.plain "issues") (Read.list Finding.ofJson)

def dump (mode : Mode) (d : Dangling) : Json :=
  assemble mode
    [listEntry "missing_screens" .str d.screens,
     listEntry "missing_tables" .str d.tables,
     listEntry "missing_tokens" .str d.tokens,
     listEntry "issues" (Finding.dump mode) d.findings] []

end Dangling

namespace Verdict

/-- The verdict a validation hands on: a document with warnings, or else errors. -/
def ofValidation (v : Validation) : Verdict :=
  match v.definition with
  | some d => ⟨.value d, none, some (v.warnings.map Finding.ofIssue)⟩
  | none => ⟨.absent, some (v.errors.map Finding.ofIssue), none⟩

def ofJson : Json → Check Verdict :=
  Read.record "ValidationResult" fun o =>
    Verdict.mk <$> Read.slot o (.plain "definition") Read.definition
      <*> Read.optional o (.plain "errors") (Read.list Finding.ofJson)
      <*> Read.optional o (.plain "warnings") (Read.list Finding.ofJson)

def dump (mode : Mode) (v : Verdict) : Json :=
  assemble mode
    [.ofSlot (.plain "definition") (Definition.dump mode) v.definition,
     listEntry "errors" (Finding.dump mode) v.errors,
     listEntry "warnings" (Finding.dump mode) v.warnings] []

/-- Whether a verdict can be dumped. -/
def fits (v : Verdict) : Bool := (v.definition.toOption.map Definition.fits).getD true

end Verdict

/-- The kinds of views. -/
inductive SeenKind where
  | screen
  | auth
  | unresolved
  deriving DecidableEq, Repr

def SeenKind.all : List SeenKind := [.screen, .auth, .unresolved]

def SeenKind.name : SeenKind → String
  | .screen => "screen"
  | .auth => "auth"
  | .unresolved => "unresolved"

structure Seen where
  kind : SeenKind
  id : Slot String
  screen : Slot Screen
  form : Slot AuthForm
  redirectedFrom : Slot String
  reason : Slot Unresolved

namespace Seen

def forms : List AuthForm := [.login, .signup]

def reasons : List Unresolved := [.noScreen, .unknownScreen, .authUnavailable]

/-- What a resolution hands on. -/
def ofResolved (r : ResolvedScreen) : Seen :=
  let redirectedFrom := match r.redirectedFrom with
    | some id => Slot.value id
    | none => .absent
  match r.view with
  | .screen id screen => ⟨.screen, .value id, .value screen, .absent, redirectedFrom, .absent⟩
  | .auth id form => ⟨.auth, .value id, .absent, .value form, redirectedFrom, .absent⟩
  | .unresolved id reason =>
    ⟨.unresolved, .ofOption id, .absent, .absent, redirectedFrom, .value reason⟩

def ofJson : Json → Check Seen :=
  Read.record "ResolvedScreen" fun o =>
    Seen.mk <$> Read.required o (.plain "kind") (Read.choice SeenKind.all SeenKind.name)
      <*> Read.slot o (.plain "screen_id") Read.text
      <*> Read.slot o (.plain "screen") Read.screen
      <*> Read.slot o (.plain "auth_variant") (Read.choice forms AuthForm.name)
      <*> Read.slot o (.plain "redirected_from") Read.text
      <*> Read.slot o (.plain "reason") (Read.choice reasons Unresolved.name)

def dump (mode : Mode) (s : Seen) : Json :=
  assemble mode
    [.always (.plain "kind") (.str s.kind.name),
     .ofSlot (.plain "screen_id") .str s.id,
     .ofSlot (.plain "screen") (Screen.dump mode) s.screen,
     .ofSlot (.plain "auth_variant") (fun form => .str form.name) s.form,
     .ofSlot (.plain "redirected_from") .str s.redirectedFrom,
     .ofSlot (.plain "reason") (fun reason => .str reason.name) s.reason] []

/-- Whether a seen screen can be dumped. -/
def fits (s : Seen) : Bool := (s.screen.toOption.map Screen.fits).getD true

end Seen

end Storyboard.Exchange

import Storyboard.Action.Reader

/-!
# Dumping actions

An action is dumped field by field in declared order, its extra keys behind
them.
-/
namespace Storyboard

namespace CredentialFields

def dump (mode : Mode) (a : CredentialFields) : Json :=
  assemble mode
    [.always (.plain "email") (.str a.email), .always (.plain "password") (.str a.password)] a.extra

end CredentialFields

/-- A table of texts as a value. -/
def textTable (fields : Assoc String) : Json := .obj (Assoc.mapValues .str fields)

namespace Action

def extra : Action → Assoc Json
  | .navigate a => a.extra
  | .popup a => a.extra
  | .goBack a => a.extra
  | .submit a => a.extra
  | .deleteRecord a => a.extra
  | .login a => a.extra
  | .signup a => a.extra
  | .logout a => a.extra
  | .setValue a => a.extra
  | .openUrl a => a.extra

end Action

mutual

/-- The declared fields of an action, its tag aside. -/
def Action.entries (mode : Mode) : Action → List Entry
  | .navigate a =>
    [.always (.plain "target") (.str a.target),
     .ofSlot (.plain "params") (fun fields => .obj (mode.anyFields fields)) a.params,
     .ofSlot (.plain "transition") (fun t => .str t.name) a.transition]
  | .popup ⟨title, message, style, buttons, _⟩ =>
    [.ofSlot (.plain "title") .str title,
     .always (.plain "message") (.str message),
     .ofSlot (.plain "variant") (fun s => .str s.name) style,
     ⟨.plain "buttons", buttons.isGiven, dumpButtonSlot mode buttons⟩]
  | .goBack _ => []
  | .submit ⟨target, endpoint, method, headers, table, fields, onSuccess, onError, _⟩ =>
    [.ofSlot (.plain "target") .str target,
     .ofSlot (.plain "endpoint") .str endpoint,
     .ofSlot (.plain "method") (fun m => .str m.name) method,
     .ofSlot (.plain "headers") textTable headers,
     .ofSlot (.plain "table") .str table,
     .ofSlot (.plain "fields") textTable fields,
     ⟨Keys.onSuccess, onSuccess.isGiven, dumpFollowUp mode onSuccess⟩,
     ⟨Keys.onError, onError.isGiven, dumpFollowUp mode onError⟩]
  | .deleteRecord a =>
    [.always (.plain "table") (.str a.table), .always Keys.recordId a.recordId.toJson]
  | .login ⟨fields, onError, _⟩ =>
    [.always (.plain "fields") (fields.dump mode),
     ⟨Keys.onError, onError.isGiven, dumpFollowUp mode onError⟩]
  | .signup ⟨fields, onError, _⟩ =>
    [.always (.plain "fields") (fields.dump mode),
     ⟨Keys.onError, onError.isGiven, dumpFollowUp mode onError⟩]
  | .logout ⟨onSuccess, _⟩ => [⟨Keys.onSuccess, onSuccess.isGiven, dumpFollowUp mode onSuccess⟩]
  | .setValue a =>
    [.always Keys.targetId (.str a.targetId),
     .ofOption (.plain "value") mode.any .null a.value]
  | .openUrl a =>
    [.always (.plain "url") (.str a.url), .ofSlot (.plain "external") .bool a.external]

def dumpFollowUp (mode : Mode) : Slot Action → Json
  | .value a => assemble mode (.always Keys.type (.str a.kind.tag) :: a.entries mode) a.extra
  | _ => .null

def PopupButton.dump (mode : Mode) : PopupButton → Json
  | ⟨text, style, action, extra⟩ =>
    assemble mode
      [.always (.plain "text") (.str text),
       .ofSlot (.plain "variant") (fun s => .str s.name) style,
       ⟨.plain "action", action.isGiven, dumpFollowUp mode action⟩] extra

def dumpButtons (mode : Mode) : List PopupButton → List Json
  | [] => []
  | b :: rest => b.dump mode :: dumpButtons mode rest

def dumpButtonSlot (mode : Mode) : Slot (List PopupButton) → Json
  | .value buttons => .arr (dumpButtons mode buttons)
  | _ => .null

end

def Action.dump (mode : Mode) (a : Action) : Json := dumpFollowUp mode (.value a)

/-- An action whose tag may have been left out. -/
def Action.dumpAs (mode : Mode) (tagGiven : Bool) (a : Action) : Json :=
  assemble mode (⟨Keys.type, tagGiven, .str a.kind.tag⟩ :: a.entries mode) a.extra

end Storyboard

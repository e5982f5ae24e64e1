import Storyboard.Action.Writer
import Storyboard.Document.Basic
import Storyboard.Document.Reader

/-!
# Dumping documents

The parts of a document are dumped like actions are: declared fields in order,
then the extra keys. `fits` says whether a dump stays within the levels of
nesting that a written document may have.
-/
namespace Storyboard

/-- A table of dumped values. -/
def dumpTable {α : Type} (dump : α → Json) (entries : Assoc α) : Json :=
  .obj (Assoc.mapValues dump entries)

def Column.dump (mode : Mode) (c : Column) : Json :=
  assemble mode
    [.always (.plain "type") (.str c.type.name),
     .ofSlot (.plain "description") .str c.description,
     .ofOption (.plain "default") mode.any .null c.default,
     .ofSlot (.plain "required") .bool c.required] c.extra

def Table.dump (mode : Mode) (t : Table) : Json :=
  assemble mode
    [.always (.plain "fields") (dumpTable (Column.dump mode) t.fields),
     .ofSlot (.plain "description") .str t.description] t.extra

def Authentication.dump (mode : Mode) (a : Authentication) : Json :=
  assemble mode
    [.always (.plain "enabled") (.bool a.enabled),
     .always Keys.userTable (.str a.userTable),
     .always Keys.emailField (.str a.emailField),
     .always Keys.passwordField (.str a.passwordField),
     .always Keys.postLoginScreen (.str a.postLoginScreen),
     .always Keys.authRedirectScreen (.str a.authRedirectScreen)] a.extra

def Theme.dump (mode : Mode) (t : Theme) : Json :=
  assemble mode
    [.ofSlot Keys.primaryColor .str t.primaryColor,
     .ofSlot Keys.secondaryColor .str t.secondaryColor,
     .ofSlot Keys.backgroundColor .str t.backgroundColor,
     .ofSlot Keys.textColor .str t.textColor,
     .ofSlot Keys.fontFamily .str t.fontFamily] t.extra

def DataSource.dump (mode : Mode) (s : DataSource) : Json :=
  assemble mode
    [.always (.plain "table") (.str s.table),
     .ofSlot (.plain "filters") (fun fields => .obj (mode.anyFields fields)) s.filters,
     .ofSlot Keys.orderBy .str s.orderBy] s.extra

mutual

/-- The declared fields of a component. -/
def Component.dump (mode : Mode) : Component → Json
  | ⟨type, id, content, placeholder, action, source, template, showIf, style, children, components,
      extra⟩ =>
    assemble mode
      [.always Keys.type (.str type.name),
       .ofSlot (.plain "id") .str id,
       .ofSlot (.plain "content") .str content,
       .ofSlot (.plain "placeholder") .str placeholder,
       .ofSlot (.plain "action") (Action.dump mode) action,
       .ofSlot Keys.dataSource (DataSource.dump mode) source,
       .ofOption (.plain "template") mode.any .null template,
       .ofSlot Keys.showIf (fun s => .str s.name) showIf,
       .ofSlot (.plain "style") (fun fields => .obj (mode.anyFields fields)) style,
       ⟨.plain "children", children.isGiven, dumpComponentSlot mode children⟩,
       ⟨.plain "components", components.isGiven, dumpComponentSlot mode components⟩] extra

def dumpComponents (mode : Mode) : List Component → List Json
  | [] => []
  | c :: rest => c.dump mode :: dumpComponents mode rest

def dumpComponentSlot (mode : Mode) : Slot (List Component) → Json
  | .value cs => .arr (dumpComponents mode cs)
  | _ => .null

end

def Screen.dump (mode : Mode) (s : Screen) : Json :=
  assemble mode
    [.ofSlot (.plain "id") .str s.id,
     .ofSlot (.plain "title") .str s.title,
     .ofOption Keys.requiresAuth .bool (.bool false) s.requiresAuth,
     ⟨.plain "components", s.components.isGiven, dumpComponentSlot mode s.components⟩,
     .ofOption (.plain "layout") mode.any .null s.layout] s.extra

def Metadata.dump (mode : Mode) (m : Metadata) : Json :=
  assemble mode
    [.always (.plain "name") (.str m.name),
     .ofSlot (.plain "theme") (Theme.dump mode) m.theme,
     .ofSlot Keys.designTokens (dumpTable TokenValue.toJson) m.designTokens,
     .ofSlot Keys.databaseSchema (dumpTable (Table.dump mode)) m.databaseSchema,
     .ofSlot (.plain "authentication") (Authentication.dump mode) m.authentication] m.extra

def Definition.dump (mode : Mode) (d : Definition) : Json :=
  assemble mode
    [.always (.plain "version") (.str d.version),
     .always (.plain "app") (d.app.dump mode),
     .always (.plain "screens") (dumpTable (Screen.dump mode) d.screens),
     .always Keys.initialScreen (.str d.initialScreen)] d.extra

def optionFits (levels : Nat) : Option Json → Bool
  | some v => valueFits levels v
  | none => true

def Column.fits (c : Column) : Bool :=
  optionFits nestingLimit c.default && fieldsFit nestingLimit c.extra

def Table.fits (t : Table) : Bool :=
  t.fields.all (fun p => p.2.fits) && fieldsFit nestingLimit t.extra

def DataSource.fits (levels : Nat) (s : DataSource) : Bool :=
  slotFits levels s.filters && fieldsFit levels s.extra

mutual

/-- Whether a component and everything below it fits into the levels left. -/
def Component.fits : Nat → Component → Bool
  | levels, ⟨_, _, _, _, action, source, template, _, style, children, components, extra⟩ =>
    1 ≤ levels &&
      (followUpFits (levels - 1) .component action &&
        (match source with
          | .value s => s.fits (levels - 1)
          | _ => true) &&
        optionFits (levels - 1) template && slotFits (levels - 1) style &&
        componentSlotFits (levels - 1) children && componentSlotFits (levels - 1) components &&
        fieldsFit (levels - 1) extra)

def componentsFit : Nat → List Component → Bool
  | _, [] => true
  | levels, c :: rest => c.fits levels && componentsFit levels rest

def componentSlotFits : Nat → Slot (List Component) → Bool
  | levels, .value cs => componentsFit levels cs
  | _, _ => true

end

def Screen.fits (s : Screen) : Bool :=
  componentSlotFits (nestingLimit - 1) s.components && optionFits nestingLimit s.layout &&
    fieldsFit nestingLimit s.extra

def Metadata.fits (m : Metadata) : Bool :=
  (match m.theme with
    | .value t => fieldsFit nestingLimit t.extra
    | _ => true) &&
  (match m.databaseSchema with
    | .value tables => tables.all fun p => p.2.fits
    | _ => true) &&
  (match m.authentication with
    | .value a => fieldsFit nestingLimit a.extra
    | _ => true) &&
  fieldsFit nestingLimit m.extra

def Definition.fits (d : Definition) : Bool :=
  d.app.fits && d.screens.all (fun p => p.2.fits) && fieldsFit nestingLimit d.extra

namespace Definition

/-- The document as text, one line or indented: the keys that were given and no others.
There is no text for a document that is nested too deeply. -/
def serialize? (d : Definition) (indent : Option Nat) : Option String :=
  if d.fits then some ((d.dump .asWritten).write (.indented false indent)) else none

end Definition

end Storyboard

import Storyboard.Proofs.Action.Settled
import Storyboard.Proofs.Document.Kinds

/-!
# Documents once they were written and read again

As with actions, only values without a declared kind change, and the numbers among the
token values that are none: their text does not tell them apart.
-/
namespace Storyboard

def Column.settled (c : Column) : Column :=
  { c with default := c.default.map Json.finitize, extra := Json.finitizeFields c.extra }

def Table.settled (t : Table) : Table :=
  { t with
    fields := Assoc.mapValues Column.settled t.fields, extra := Json.finitizeFields t.extra }

def Authentication.settled (a : Authentication) : Authentication :=
  { a with extra := Json.finitizeFields a.extra }

def Theme.settled (t : Theme) : Theme := { t with extra := Json.finitizeFields t.extra }

def DataSource.settled (s : DataSource) : DataSource :=
  { s with filters := s.filters.map Json.finitizeFields, extra := Json.finitizeFields s.extra }

mutual

/-- A component as it is read again. -/
def Component.settled : Component → Component
  | ⟨type, id, content, placeholder, action, source, template, showIf, style, children, components,
      extra⟩ =>
    ⟨type, id, content, placeholder, action.map Action.settled, source.map DataSource.settled,
      template.map Json.finitize, showIf, style.map Json.finitizeFields,
      settledComponentSlot children, settledComponentSlot components, Json.finitizeFields extra⟩

def settledComponents : List Component → List Component
  | [] => []
  | c :: rest => c.settled :: settledComponents rest

def settledComponentSlot : Slot (List Component) → Slot (List Component)
  | .value cs => .value (settledComponents cs)
  | .null => .null
  | .absent => .absent

end

theorem settledComponents_eq (cs : List Component) :
    settledComponents cs = cs.map Component.settled := by
  induction cs with
  | nil => rw [settledComponents]; rfl
  | cons c rest ih => rw [settledComponents, ih]; rfl

@[simp] theorem settledComponentSlot_eq (s : Slot (List Component)) :
    settledComponentSlot s = s.map (List.map Component.settled) := by
  cases s with
  | value cs => rw [settledComponentSlot, settledComponents_eq]; rfl
  | null => rw [settledComponentSlot]; rfl
  | absent => rw [settledComponentSlot]; rfl

def Screen.settled (s : Screen) : Screen :=
  { s with
    components := s.components.map (List.map Component.settled)
    layout := s.layout.map Json.finitize
    extra := Json.finitizeFields s.extra }

def Metadata.settled (m : Metadata) : Metadata :=
  { m with
    theme := m.theme.map Theme.settled
    designTokens := m.designTokens.map (Assoc.mapValues TokenValue.settled)
    databaseSchema := m.databaseSchema.map (Assoc.mapValues Table.settled)
    authentication := m.authentication.map Authentication.settled
    extra := Json.finitizeFields m.extra }

def Definition.settled (d : Definition) : Definition :=
  { d with
    app := d.app.settled
    screens := Assoc.mapValues Screen.settled d.screens
    extra := Json.finitizeFields d.extra }

section Induction

variable {P : Component → Prop}

/-- A component has the property if the components of its two lists have it. -/
def Component.Hereditary (P : Component → Prop) : Prop :=
  ∀ c : Component, (∀ cs ∈ c.children.toOption, ∀ x ∈ cs, P x) →
    (∀ cs ∈ c.components.toOption, ∀ x ∈ cs, P x) → P c

namespace Component.Hereditary

mutual

theorem all (h : Hereditary P) : ∀ c, P c
  | ⟨_, _, _, _, _, _, _, _, _, children, components, _⟩ =>
    h _ (h.slot children) (h.slot components)

theorem list (h : Hereditary P) : ∀ cs : List Component, ∀ c ∈ cs, P c
  | [] => nofun
  | c :: rest => List.forall_mem_cons.mpr ⟨h.all c, h.list rest⟩

theorem slot (h : Hereditary P) : ∀ s : Slot (List Component), ∀ cs ∈ s.toOption, ∀ c ∈ cs, P c
  | .value cs => fun _ hcs => by cases hcs; exact h.list cs
  | .null => nofun
  | .absent => nofun

end

end Component.Hereditary

end Induction

theorem dumpComponents_eq (mode : Mode) (cs : List Component) :
    dumpComponents mode cs = cs.map (Component.dump mode) := by
  induction cs with
  | nil => rw [dumpComponents]; rfl
  | cons c rest ih => rw [dumpComponents, ih]; rfl

theorem ofSlot_components (mode : Mode) (key : Key) (s : Slot (List Component)) :
    (⟨key, s.isGiven, dumpComponentSlot mode s⟩ : Entry) =
      .ofSlot key (fun cs => .arr (cs.map (Component.dump mode))) s := by
  cases s with
  | value cs => rw [dumpComponentSlot, dumpComponents_eq]; rfl
  | null => simp only [dumpComponentSlot]; rfl
  | absent => simp only [dumpComponentSlot]; rfl

/-- The entries of a component's lists are those of slots. -/
theorem Component.dump_eq (mode : Mode) (c : Component) :
    c.dump mode = assemble mode
      [.always Keys.type (.str c.type.name), .ofSlot (.plain "id") .str c.id,
       .ofSlot (.plain "content") .str c.content, .ofSlot (.plain "placeholder") .str c.placeholder,
       .ofSlot (.plain "action") (Action.dump mode) c.action,
       .ofSlot Keys.dataSource (DataSource.dump mode) c.dataSource,
       .ofOption (.plain "template") mode.any .null c.template,
       .ofSlot Keys.showIf (fun s => .str s.name) c.showIf,
       .ofSlot (.plain "style") (fun fields => .obj (mode.anyFields fields)) c.style,
       .ofSlot (.plain "children") (fun cs => .arr (cs.map (Component.dump mode))) c.children,
       .ofSlot (.plain "components") (fun cs => .arr (cs.map (Component.dump mode)))
         c.components] c.extra := by
  cases c
  rw [Component.dump, ofSlot_components, ofSlot_components]

theorem Column.dump_settled (c : Column) :
    c.settled.dump .asWritten = (c.dump .asWritten).reread := by
  rw [Column.dump, Column.dump, reread_assemble]
  simp [Column.settled]

theorem dumpTable_settled {α : Type} {dump : α → Json} {settle : α → α}
    (h : ∀ x, dump (settle x) = (dump x).reread) (entries : Assoc α) :
    dumpTable dump (Assoc.mapValues settle entries) = (dumpTable dump entries).reread := by
  rw [dumpTable, dumpTable, Json.reread_obj, Assoc.mapValues_mapValues, Assoc.mapValues_mapValues]
  exact congrArg Json.obj (Assoc.mapValues_congr fun p _ => h p.2)

theorem Table.dump_settled (t : Table) :
    t.settled.dump .asWritten = (t.dump .asWritten).reread := by
  rw [Table.dump, Table.dump, reread_assemble]
  simp [Table.settled, dumpTable_settled Column.dump_settled]

theorem Authentication.dump_settled (a : Authentication) :
    a.settled.dump .asWritten = (a.dump .asWritten).reread := by
  rw [Authentication.dump, Authentication.dump, reread_assemble]
  simp [Authentication.settled]

theorem Theme.dump_settled (t : Theme) :
    t.settled.dump .asWritten = (t.dump .asWritten).reread := by
  rw [Theme.dump, Theme.dump, reread_assemble]
  simp [Theme.settled]

theorem DataSource.dump_settled (s : DataSource) :
    s.settled.dump .asWritten = (s.dump .asWritten).reread := by
  rw [DataSource.dump, DataSource.dump, reread_assemble]
  simp [DataSource.settled]

theorem Component.hereditary_dump_settled :
    Component.Hereditary fun c => c.settled.dump .asWritten = (c.dump .asWritten).reread := by
  intro c hchildren hcomponents
  rw [Component.dump_eq, Component.dump_eq, reread_assemble]
  obtain ⟨type, id, content, placeholder, action, source, template, showIf, style, children,
    components, extra⟩ := c
  simp [Component.settled, Entry.ofSlot_map fun a _ => Action.dump_settled a,
    Entry.ofSlot_map fun s _ => DataSource.dump_settled s, Entry.ofSlot_list _ hchildren,
    Entry.ofSlot_list _ hcomponents]

theorem Screen.dump_settled (s : Screen) :
    s.settled.dump .asWritten = (s.dump .asWritten).reread := by
  have hcomponents := Component.hereditary_dump_settled.slot s.components
  have hauth : ∀ x : Option Bool, (Entry.ofOption Keys.requiresAuth .bool (.bool false) x).reread =
      .ofOption Keys.requiresAuth .bool (.bool false) x := fun x => by cases x <;> rfl
  rw [Screen.dump, Screen.dump, ofSlot_components, ofSlot_components, reread_assemble]
  simp [Screen.settled, hauth, Entry.ofSlot_list _ hcomponents]

theorem Metadata.dump_settled (m : Metadata) :
    m.settled.dump .asWritten = (m.dump .asWritten).reread := by
  have htoken : ∀ t : TokenValue, t.settled.toJson = t.toJson.reread := fun t => by cases t <;> rfl
  rw [Metadata.dump, Metadata.dump, reread_assemble]
  simp [Metadata.settled, Entry.ofSlot_map fun t _ => Theme.dump_settled t,
    Entry.ofSlot_map fun ts _ => dumpTable_settled htoken ts,
    Entry.ofSlot_map fun ts _ => dumpTable_settled Table.dump_settled ts,
    Entry.ofSlot_map fun a _ => Authentication.dump_settled a]

/-- The dump of a document is read again as the dump of the settled document. -/
theorem Definition.dump_settled (d : Definition) :
    d.settled.dump .asWritten = (d.dump .asWritten).reread := by
  rw [Definition.dump, Definition.dump, reread_assemble]
  simp [Definition.settled, Metadata.dump_settled, dumpTable_settled Screen.dump_settled]

end Storyboard

import Storyboard.Document.Validation
import Storyboard.Proofs.Assoc
import Storyboard.Proofs.Schema.Reading
import Storyboard.Schema.Finding

/-!
# Faults of closed kinds are reported where they stand

The kinds of components, of actions and of columns are closed. Wherever a component stands in
a screen, or a column in a declared table, a kind that is missing or unknown is an issue of the
validation, under the path that leads there. Issues add up: none hides another one, be it above,
beside or below it.
-/
namespace Storyboard

variable {α β : Type}

/-- The issue seen from further up, under a path. -/
def Issue.under (path : List String) (i : Issue) : Issue := ⟨path ++ i.path, i.problem⟩

@[simp] theorem Issue.under_nil (i : Issue) : i.under [] = i := rfl

theorem Issue.under_append (first second : List String) (i : Issue) :
    i.under (first ++ second) = (i.under second).under first := by
  simp only [under, List.append_assoc]

namespace Check

/-- A reading failed, and an issue is among those it failed with. -/
def Reports (c : Check α) (i : Issue) : Prop := ∃ issues, c = .bad issues ∧ i ∈ issues

@[simp] theorem reports_bad {issues : List Issue} {i : Issue} :
    (.bad issues : Check α).Reports i ↔ i ∈ issues := by
  constructor
  · rintro ⟨_, heq, hmem⟩
    cases heq
    exact hmem
  · exact fun hmem => ⟨issues, rfl, hmem⟩

@[simp] theorem not_reports_ok {a : α} {i : Issue} : ¬ (.ok a : Check α).Reports i := nofun

theorem reports_fail (problem : Problem) : (fail problem : Check α).Reports (.atRoot problem) :=
  ⟨_, rfl, List.mem_singleton_self _⟩

@[simp] theorem reports_map {f : α → β} {c : Check α} {i : Issue} :
    (f <$> c).Reports i ↔ c.Reports i := by
  cases c with
  | ok a => exact ⟨fun h => absurd h not_reports_ok, fun h => absurd h not_reports_ok⟩
  | bad issues => exact reports_bad.trans reports_bad.symm

/-- Of two readings side by side, neither hides an issue of the other. -/
@[simp] theorem reports_seq {f : Check (α → β)} {c : Check α} {i : Issue} :
    (f <*> c).Reports i ↔ f.Reports i ∨ c.Reports i := by
  have hboth : (f <*> c) = both f c := rfl
  rw [hboth]
  cases f with
  | ok g => cases c <;> simp [both]
  | bad issues => cases c <;> simp [both]

theorem Reports.below {c : Check α} {i : Issue} (h : c.Reports i) (key : String) :
    (under key c).Reports (i.under [key]) := by
  obtain ⟨issues, rfl, hmem⟩ := h
  exact ⟨_, rfl, List.mem_map_of_mem hmem⟩

end Check

namespace Read

variable {read : Json → Check α} {o : Assoc Json} {i : Issue}

/-- A field that stands under its document key is read from there. -/
theorem used?_eq_external {key : Key} {v : Json} (h : Assoc.get? o key.external = some v) :
    key.used? o = some key.external := by
  rw [Key.used?, Assoc.has, h, Option.isSome_some, if_pos rfl]

theorem reports_required {key : Key} {v : Json} (field : Assoc.get? o key.external = some v)
    (h : (read v).Reports i) : (required o key read).Reports (i.under [key.external]) := by
  rw [required, used?_eq_external field]
  dsimp only
  rw [field]
  exact h.below key.external

theorem reports_missing {key : Key} (absent : key.used? o = none) :
    (required o key read).Reports ⟨[key.external], .missing⟩ := by
  rw [required, absent]
  exact (Check.reports_fail .missing).below key.external

/-- A field that is not `null` is read. -/
theorem reports_slot {key : Key} {v : Json} (field : Assoc.get? o key.external = some v)
    (given : v ≠ .null) (h : (read v).Reports i) :
    (slot o key read).Reports (i.under [key.external]) := by
  rw [slot, used?_eq_external field]
  dsimp only
  rw [field]
  have hmapped : ((read v).map Slot.value).Reports i := Check.reports_map.mpr h
  cases v with
  | null => exact absurd rfl given
  | _ => exact hmapped.below key.external

/-- Items are counted on from the index of the first one. -/
theorem reports_items {vs : List Json} {index : Nat} {v : Json} (item : vs[index]? = some v)
    (h : (read v).Reports i) (first : Nat) :
    (items read first vs).Reports (i.under [toString (first + index)]) := by
  induction vs generalizing first index with
  | nil => cases item
  | cons w rest ih =>
    rw [items, Check.reports_seq, Check.reports_map]
    cases index with
    | zero =>
      cases item
      exact .inl (h.below (toString first))
    | succ index =>
      have hrest := ih item (first + 1)
      rw [Nat.add_assoc, Nat.add_comm 1 index] at hrest
      exact .inr hrest

theorem reports_list {vs : List Json} {index : Nat} {v : Json} (item : vs[index]? = some v)
    (h : (read v).Reports i) : (list read (.arr vs)).Reports (i.under [toString index]) := by
  have hitems := reports_items item h 0
  rw [Nat.zero_add] at hitems
  exact hitems

theorem reports_table {fields : Assoc Json} {key : String} {v : Json} (entry : (key, v) ∈ fields)
    (h : (read v).Reports i) : (table read (.obj fields)).Reports (i.under [key]) := by
  rw [table]
  induction fields with
  | nil => cases entry
  | cons p rest ih =>
    obtain ⟨k, w⟩ := p
    rw [entries, Check.reports_seq, Check.reports_map, Check.reports_map]
    rcases List.mem_cons.mp entry with heq | hrest
    · cases heq
      exact .inl (h.below key)
    · exact .inr (ih hrest)

/-- A value that none of the options names is reported with all of them. -/
theorem reports_choice {all : List α} {name : α → String} {v : Json}
    (unknown : ∀ a ∈ all, v ≠ .str (name a)) :
    (choice all name v).Reports (.atRoot (.notOneOf (all.map name))) := by
  have hnone : (v.str?.bind fun s => all.find? fun a => name a == s) = none := by
    cases v with
    | str s =>
      rw [Json.str?, Option.bind_some, List.find?_eq_none]
      intro a ha heq
      exact unknown a ha (congrArg Json.str (eq_of_beq heq).symm)
    | _ => rfl
  rw [choice, hnone]
  exact Check.reports_fail _

end Read

namespace Json

/-- What is wrong with an object whose `type` names a kind of a closed list. -/
inductive KindFault (names : List String) (o : Assoc Json) : Problem → Prop
  | missing (absent : Assoc.get? o "type" = none) : KindFault names o .missing
  | unknown {v : Json} (given : Assoc.get? o "type" = some v)
    (unknown : ∀ name ∈ names, v ≠ .str name) : KindFault names o (.notOneOf names)

/-- What is wrong with an object that stands for an action. -/
inductive ActionFault (o : Assoc Json) : Problem → Prop
  | missing (absent : Assoc.get? o "type" = none) : ActionFault o .tagMissing
  | unknown {tag : String} (given : Assoc.get? o "type" = some (.str tag))
    (unknown : ∀ kind : ActionKind, kind.tag ≠ tag) :
    ActionFault o (.tagUnknown tag ActionKind.tags)

/-- A component of a document: the path to it, and how many components it stands in. -/
inductive ComponentAt (document : Assoc Json) : List String → Nat → Assoc Json → Prop
  | root {screens screen component : Assoc Json} {items : List Json} {key : String} {index : Nat}
    (ofScreens : Assoc.get? document "screens" = some (.obj screens))
    (ofScreen : (key, .obj screen) ∈ screens)
    (components : Assoc.get? screen "components" = some (.arr items))
    (item : items[index]? = some (.obj component)) :
    ComponentAt document ["screens", key, "components", toString index] 0 component
  | inner {path : List String} {above : Nat} {outer component : Assoc Json} {items : List Json}
    {list : String} {index : Nat} (around : ComponentAt document path above outer)
    (named : list = "children" ∨ list = "components")
    (ofOuter : Assoc.get? outer list = some (.arr items))
    (item : items[index]? = some (.obj component)) :
    ComponentAt document (path ++ [list, toString index]) (above + 1) component

/-- A column of a declared table, and the path to it. -/
inductive ColumnAt (document : Assoc Json) : List String → Assoc Json → Prop
  | declared {app tables table columns column : Assoc Json} {name field : String}
    (ofApp : Assoc.get? document "app" = some (.obj app))
    (ofSchema : Assoc.get? app "databaseSchema" = some (.obj tables))
    (ofTable : (name, .obj table) ∈ tables)
    (fields : Assoc.get? table "fields" = some (.obj columns))
    (ofColumn : (field, .obj column) ∈ columns) :
    ColumnAt document ["app", "databaseSchema", name, "fields", field] column

/-- A fault of a closed kind in a document, as the issue that it should be. -/
inductive Violation (document : Assoc Json) : Issue → Prop
  | component {path : List String} {above : Nat} {component : Assoc Json} {problem : Problem}
    (place : ComponentAt document path above component)
    (fault : KindFault (ComponentType.all.map ComponentType.name) component problem) :
    Violation document ⟨path ++ ["type"], problem⟩
  | action {path : List String} {above : Nat} {component action : Assoc Json} {problem : Problem}
    (place : ComponentAt document path above component)
    (given : Assoc.get? component "action" = some (.obj action))
    (fault : ActionFault action problem) : Violation document ⟨path ++ ["action"], problem⟩
  | column {path : List String} {column : Assoc Json} {problem : Problem}
    (place : ColumnAt document path column)
    (fault : KindFault (ColumnType.all.map ColumnType.name) column problem) :
    Violation document ⟨path ++ ["type"], problem⟩

/-- No component stands in so many others that the validation breaks off at it. -/
def WithinLevels (document : Assoc Json) : Prop :=
  ∀ {path : List String} {above : Nat} {component : Assoc Json},
    ComponentAt document path above component → above + 1 < nestingLimit

end Json

namespace Read

open Json

variable {i : Issue} {problem : Problem} {levels : Nat} {o component : Assoc Json}

/-- A faulty `type` is an issue at that field. -/
theorem reports_kind {α : Type} {all : List α} {name : α → String}
    (fault : KindFault (all.map name) o problem) :
    (required o (.plain "type") (choice all name)).Reports ⟨["type"], problem⟩ := by
  cases fault with
  | missing absent =>
    have hunused : (Key.plain "type").used? o = none := by
      simp [Key.used?, Key.plain, Assoc.has, absent]
    exact reports_missing hunused
  | @unknown v given unknown =>
    have hnone : ∀ a ∈ all, v ≠ .str (name a) :=
      fun a ha => unknown (name a) (List.mem_map_of_mem ha)
    exact reports_required given (reports_choice hnone)

/-- The kind of an action is read first, however few levels are left. -/
theorem reports_action (fault : ActionFault o problem) (scope : Scope) :
    (Action.read levels scope (.obj o)).Reports (.atRoot problem) := by
  have htagged : Action.tagged (.obj o) = .fail problem := by
    rw [Action.tagged]
    cases fault with
    | missing absent => rw [absent]
    | @unknown tag given unknown =>
      have hnone : ActionKind.ofTag? tag = none := by
        rw [ActionKind.ofTag?, List.find?_eq_none]
        exact fun kind _ heq => unknown kind (eq_of_beq heq)
      rw [given]
      dsimp only
      rw [Json.str?, Option.bind_some, hnone]
      rfl
  rw [Action.read, htagged]
  exact Check.reports_fail problem

/-- What a component of its own reports: a faulty kind. -/
theorem reports_component_kind
    (fault : KindFault (ComponentType.all.map ComponentType.name) component problem) :
    (Read.component (levels + 1) (.obj component)).Reports ⟨["type"], problem⟩ := by
  rw [Read.component, record_obj]
  simp only [Check.reports_seq, Check.reports_map]
  have hkind := reports_kind fault
  simp only [Keys.type, hkind, true_or]

/-- A component reports a faulty action it has. -/
theorem reports_component_action {action : Assoc Json}
    (given : Assoc.get? component "action" = some (.obj action))
    (fault : ActionFault action problem) :
    (Read.component (levels + 1) (.obj component)).Reports ⟨["action"], problem⟩ := by
  rw [Read.component, record_obj]
  simp only [Check.reports_seq, Check.reports_map]
  have haction : (slot component (.plain "action") (Action.read levels .component)).Reports
      ⟨["action"], problem⟩ :=
    reports_slot (i := .atRoot problem) given (by nofun) (reports_action fault .component)
  simp only [haction, true_or, or_true]

/-- A component reports what the components in either of its lists report. -/
theorem reports_component_inner {inner : Json} {list : String} {items : List Json} {index : Nat}
    (named : list = "children" ∨ list = "components")
    (field : Assoc.get? component list = some (.arr items)) (item : items[index]? = some inner)
    (h : (Read.component levels inner).Reports i) :
    (Read.component (levels + 1) (.obj component)).Reports (i.under [list, toString index]) := by
  rw [Read.component, record_obj]
  simp only [Check.reports_seq, Check.reports_map]
  have hlist : (slot component (.plain list) (Read.list (Read.component levels))).Reports
      (i.under [list, toString index]) :=
    reports_slot field (by nofun) (reports_list item h)
  rcases named with rfl | rfl
  · simp only [hlist, true_or, or_true]
  · simp only [hlist, or_true]

/-- What a component of a document reports, the document reports under its path. -/
theorem reports_componentAt {document : Assoc Json} {path : List String} {above : Nat}
    (place : ComponentAt document path above component) (within : above < nestingLimit)
    (h : (Read.component (nestingLimit - 1 - above) (.obj component)).Reports i) :
    (definition (.obj document)).Reports (i.under path) := by
  induction place generalizing i with
  | @root screens screen component items key index ofScreens ofScreen components item =>
    have hlist : (slot screen (.plain "components")
        (Read.list (Read.component (nestingLimit - 1)))).Reports
          (i.under ["components", toString index]) :=
      reports_slot components (by nofun) (reports_list item h)
    have hscreen : (Read.screen (.obj screen)).Reports
        (i.under ["components", toString index]) := by
      rw [Read.screen, record_obj]
      simp only [Check.reports_seq, Check.reports_map, hlist, true_or, or_true]
    have htable : (required document (.plain "screens") (table Read.screen)).Reports
        (i.under ["screens", key, "components", toString index]) :=
      reports_required ofScreens (reports_table ofScreen hscreen)
    rw [definition, record_obj]
    simp only [Check.reports_seq, Check.reports_map, htable, true_or, or_true]
  | @inner path above outer component items list index around named ofOuter item ih =>
    have hlevels : nestingLimit - 1 - above = nestingLimit - 1 - (above + 1) + 1 := by omega
    have houter := reports_component_inner named ofOuter item h
    rw [← hlevels] at houter
    rw [Issue.under_append]
    exact ih (Nat.lt_of_succ_lt within) houter

/-- What a column of a document reports, the document reports under its path. -/
theorem reports_columnAt {document column : Assoc Json} {path : List String}
    (place : ColumnAt document path column) (h : (Read.column (.obj column)).Reports i) :
    (definition (.obj document)).Reports (i.under path) := by
  cases place with
  | @declared app tables declared columns _ name field ofApp ofSchema ofTable fields ofColumn =>
    have hcolumns : (required declared (.plain "fields") (table Read.column)).Reports
        (i.under ["fields", field]) :=
      reports_required fields (reports_table ofColumn h)
    have htable : (databaseTable (.obj declared)).Reports (i.under ["fields", field]) := by
      rw [databaseTable, record_obj]
      simp only [Check.reports_seq, Check.reports_map, hcolumns, true_or]
    have hschema : (slot app Keys.databaseSchema (table databaseTable)).Reports
        (i.under ["databaseSchema", name, "fields", field]) :=
      reports_slot ofSchema (by nofun) (reports_table ofTable htable)
    have happ : (metadata (.obj app)).Reports
        (i.under ["databaseSchema", name, "fields", field]) := by
      rw [metadata, record_obj]
      simp only [Check.reports_seq, Check.reports_map, hschema, true_or, or_true]
    have hrequired : (required document (.plain "app") metadata).Reports
        (i.under ["app", "databaseSchema", name, "fields", field]) :=
      reports_required ofApp happ
    rw [definition, record_obj]
    simp only [Check.reports_seq, Check.reports_map, hrequired, true_or, or_true]

/-- Within the levels, every fault of a closed kind is reported. -/
theorem reports_violation {document : Assoc Json} (within : WithinLevels document)
    (violation : Violation document i) : (definition (.obj document)).Reports i := by
  have hlevels {path : List String} {above : Nat} {component : Assoc Json}
      (place : ComponentAt document path above component) :
      nestingLimit - 1 - above = nestingLimit - 1 - above - 1 + 1 := by
    have habove := within place
    omega
  cases violation with
  | component place fault =>
    refine reports_componentAt (i := ⟨["type"], _⟩) place (Nat.lt_of_succ_lt (within place)) ?_
    rw [hlevels place]
    exact reports_component_kind fault
  | action place given fault =>
    refine reports_componentAt (i := ⟨["action"], _⟩) place (Nat.lt_of_succ_lt (within place)) ?_
    rw [hlevels place]
    exact reports_component_action given fault
  | column place fault =>
    refine reports_columnAt (i := ⟨["type"], _⟩) place ?_
    rw [Read.column, record_obj]
    have hkind := reports_kind fault
    simp only [Check.reports_seq, Check.reports_map, hkind, true_or]

/-- A document with a component beyond the levels reports that it is too deep. -/
theorem reports_tooDeep {document : Assoc Json} {path : List String} {above : Nat}
    (place : ComponentAt document path above component) (deep : nestingLimit ≤ above + 1) :
    ∃ place, (definition (.obj document)).Reports ⟨place, .tooDeep⟩ := by
  induction place with
  | root => exact absurd deep (by decide)
  | @inner path above outer component items list index around named ofOuter item ih =>
    by_cases hdeep : nestingLimit ≤ above + 1
    · exact ih hdeep
    · -- the first component that finds no level left
      have hlast : nestingLimit - 1 - (above + 1) = 0 := by omega
      have hreports : (Read.component 0 (.obj component)).Reports (.atRoot .tooDeep) :=
        Check.reports_fail .tooDeep
      rw [← hlast] at hreports
      have hplace := ComponentAt.inner around named ofOuter item
      exact ⟨_, reports_componentAt hplace (Nat.lt_of_not_le hdeep) hreports⟩

/-- A document that is not reported as too deep stays within the levels. -/
theorem withinLevels_of_not_tooDeep {document : Assoc Json}
    (h : ∀ place, ¬ (definition (.obj document)).Reports ⟨place, .tooDeep⟩) :
    WithinLevels document := by
  intro path above component place
  by_contra hdeep
  obtain ⟨deep, hreports⟩ := reports_tooDeep place (Nat.le_of_not_lt hdeep)
  exact h deep hreports

end Read

/-- A document that reports an issue is rejected with all that it reports. -/
theorem Validation.ofJson_of_reports {data : Json} {i : Issue}
    (h : (Read.definition data).Reports i) :
    ∃ v, ofJson data = .ok v ∧ v.definition = none ∧
      ∀ issue, (Read.definition data).Reports issue → issue ∈ v.errors := by
  obtain ⟨issues, hread, -⟩ := h
  refine ⟨rejected issues, ?_, rfl, ?_⟩
  · rw [ofJson, hread]
  · intro issue hreports
    rw [hread] at hreports
    exact Check.reports_bad.mp hreports

/-- Validation reports every fault of a closed kind at once, each at its place. -/
theorem violations_all_reported {document : Assoc Json} {i : Issue}
    (within : Json.WithinLevels document) (faulty : Json.Violation document i) :
    ∃ v, Validation.ofJson (.obj document) = .ok v ∧ v.definition = none ∧
      ∀ issue, Json.Violation document issue →
        ∃ finding ∈ v.errors.map Finding.ofIssue,
          finding.path = String.intercalate "." issue.path ∧
            finding.message = issue.problem.message := by
  obtain ⟨v, hv, hnone, herrors⟩ :=
    Validation.ofJson_of_reports (Read.reports_violation within faulty)
  refine ⟨v, hv, hnone, ?_⟩
  intro issue hviolation
  have hmem := herrors issue (Read.reports_violation within hviolation)
  exact ⟨.ofIssue issue, List.mem_map_of_mem hmem, rfl, rfl⟩

namespace Json

/-- A component of no known type that holds a nameless one, with a button of an unknown action
inside; a column of no known type; and a document that lacks most of what it needs. -/
def faultyDocument : Assoc Json :=
  [("app", .obj [("databaseSchema",
      .obj [("tasks", .obj [("fields", .obj [("done", .obj [("type", .str "flag")])])])])]),
   ("screens", .obj [("home", .obj [("components", .arr [
      .obj [("type", .str "carousel"), ("children", .arr [
        .obj [("components", .arr [
          .obj [("type", .str "button"),
            ("action", .obj [("type", .str "teleport")])]])]])]])])])]

/-- All that the document reports. -/
theorem faultyDocument_read : Read.definition (.obj faultyDocument) = .bad
    [⟨["version"], .missing⟩,
     ⟨["app", "name"], .missing⟩,
     ⟨["app", "databaseSchema", "tasks", "fields", "done", "type"],
       .notOneOf (ColumnType.all.map ColumnType.name)⟩,
     ⟨["screens", "home", "components", "0", "type"],
       .notOneOf (ComponentType.all.map ComponentType.name)⟩,
     ⟨["screens", "home", "components", "0", "children", "0", "type"], .missing⟩,
     ⟨["screens", "home", "components", "0", "children", "0", "components", "0", "action"],
       .tagUnknown "teleport" ActionKind.tags⟩,
     ⟨["initialScreen"], .missing⟩] := by
  rfl

theorem faultyDocument_within : WithinLevels faultyDocument := by
  apply Read.withinLevels_of_not_tooDeep
  intro place hreports
  rw [faultyDocument_read, Check.reports_bad] at hreports
  simp at hreports

/-- The unknown type of the outer component. -/
theorem faultyDocument_outer : Violation faultyDocument
    ⟨["screens", "home", "components", toString 0, "type"],
      .notOneOf (ComponentType.all.map ComponentType.name)⟩ := by
  have hunknown : ∀ name ∈ ComponentType.all.map ComponentType.name,
      Json.str "carousel" ≠ .str name := by
    intro name hname heq
    cases heq
    exact absurd hname (by decide)
  exact .component (.root rfl List.mem_cons_self rfl rfl) (.unknown rfl hunknown)

/-- The unknown action of the innermost component. -/
theorem faultyDocument_innermost : Violation faultyDocument
    ⟨["screens", "home", "components", toString 0, "children", toString 0, "components", toString 0,
      "action"], .tagUnknown "teleport" ActionKind.tags⟩ := by
  have hunknown : ∀ kind : ActionKind, kind.tag ≠ "teleport" := by
    intro kind
    cases kind <;> decide
  have houter : ComponentAt faultyDocument ["screens", "home", "components", toString 0] 0 _ :=
    .root rfl List.mem_cons_self rfl rfl
  have hmiddle : ComponentAt faultyDocument
      ["screens", "home", "components", toString 0, "children", toString 0] 1 _ :=
    houter.inner (.inl rfl) rfl rfl
  have hinnermost : ComponentAt faultyDocument
      ["screens", "home", "components", toString 0, "children", toString 0, "components",
        toString 0] 2 _ :=
    hmiddle.inner (.inr rfl) rfl rfl
  exact .action hinnermost rfl (.unknown rfl hunknown)

end Json

theorem faultyDocument_all_reported :
    ∃ v, Validation.ofJson (.obj Json.faultyDocument) = .ok v ∧ v.definition = none ∧
      (∃ finding ∈ v.errors.map Finding.ofIssue,
        finding.path = "screens.home.components.0.type") ∧
      ∃ finding ∈ v.errors.map Finding.ofIssue,
        finding.path = "screens.home.components.0.children.0.components.0.action" := by
  obtain ⟨v, hv, hnone, hall⟩ :=
    violations_all_reported Json.faultyDocument_within Json.faultyDocument_outer
  obtain ⟨outer, houter, hpath, -⟩ := hall _ Json.faultyDocument_outer
  obtain ⟨innermost, hinnermost, hdeeper, -⟩ := hall _ Json.faultyDocument_innermost
  exact ⟨v, hv, hnone, ⟨outer, houter, hpath⟩, innermost, hinnermost, hdeeper⟩

end Storyboard

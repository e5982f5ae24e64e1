import Storyboard.Document.Reader
import Storyboard.Proofs.Schema.Record

/-!
# Canonical documents

A document may spell fields under plain names, give words and numbers for truth values,
and give a record id as a number that is no whole one. A canonical document does none of
this. Whether it does is asked where values are read as something, and nowhere else: in
values without a declared kind every key is as good as any other. Texts, names from a list
and token values are read strictly, so nothing is asked of them.
-/
namespace Storyboard

/-- The kinds of objects in a document. -/
inductive Part where
  | credentials
  | button
  | action (kind : ActionKind)
  | column
  | table
  | authentication
  | theme
  | dataSource
  | component
  | screen
  | metadata
  | definition
  deriving DecidableEq, Repr

/-- What is expected at a place of a document. -/
inductive Shape where
  | free
  | flag
  | recordId
  | list (items : Shape)
  | table (values : Shape)
  | part (part : Part)
  | action
  deriving DecidableEq, Repr

namespace Part

/-- Fields of which nothing is asked. -/
def free (keys : List Key) : List (Key × Shape) := keys.map (·, .free)

/-- The fields of an object of a kind. -/
def fields : Part → List (Key × Shape)
  | credentials => free Keys.credentials
  | button => free [.plain "text", .plain "variant"] ++ [(.plain "action", .action)]
  | action .popup =>
    free [Keys.type, .plain "title", .plain "message", .plain "variant"] ++
      [(.plain "buttons", .list (.part .button))]
  | action .submit =>
    free [Keys.type, .plain "target", .plain "endpoint", .plain "method", .plain "headers",
      .plain "table", .plain "fields"] ++ [(Keys.onSuccess, .action), (Keys.onError, .action)]
  | action .deleteRecord => free [Keys.type, .plain "table"] ++ [(Keys.recordId, .recordId)]
  | action .login =>
    [(Keys.type, .free), (.plain "fields", .part .credentials), (Keys.onError, .action)]
  | action .signup =>
    [(Keys.type, .free), (.plain "fields", .part .credentials), (Keys.onError, .action)]
  | action .logout => [(Keys.type, .free), (Keys.onSuccess, .action)]
  | action .openUrl => free [Keys.type, .plain "url"] ++ [(.plain "external", .flag)]
  | action .navigate => free (Keys.ofAction .navigate)
  | action .goBack => free (Keys.ofAction .goBack)
  | action .setValue => free (Keys.ofAction .setValue)
  | column =>
    free [.plain "type", .plain "description", .plain "default"] ++ [(.plain "required", .flag)]
  | table => [(.plain "fields", .table (.part .column)), (.plain "description", .free)]
  | authentication =>
    (.plain "enabled", .flag) :: free [Keys.userTable, Keys.emailField, Keys.passwordField,
      Keys.postLoginScreen, Keys.authRedirectScreen]
  | theme => free Keys.theme
  | dataSource => free Keys.dataSourceFields
  | component =>
    free [Keys.type, .plain "id", .plain "content", .plain "placeholder"] ++
      [(.plain "action", .action), (Keys.dataSource, .part .dataSource)] ++
      free [.plain "template", Keys.showIf, .plain "style"] ++
      [(.plain "children", .list (.part .component)),
       (.plain "components", .list (.part .component))]
  | screen =>
    free [.plain "id", .plain "title"] ++
      [(Keys.requiresAuth, .flag), (.plain "components", .list (.part .component)),
       (.plain "layout", .free)]
  | metadata =>
    [(.plain "name", .free), (.plain "theme", .part .theme), (Keys.designTokens, .free),
     (Keys.databaseSchema, .table (.part .table)), (.plain "authentication", .part .authentication)]
  | definition =>
    [(.plain "version", .free), (.plain "app", .part .metadata),
     (.plain "screens", .table (.part .screen)), (Keys.initialScreen, .free)]

def keys (part : Part) : List Key := part.fields.map (·.1)

/-- Whether a key is the plain name of a field that is written otherwise. -/
def isPlainName (fields : List (Key × Shape)) (k : String) : Bool :=
  fields.any fun f => f.1.name == k && f.1.external != k

/-- What is expected under a key. -/
def shapeUnder (fields : List (Key × Shape)) (k : String) : Shape :=
  ((fields.find? fun f => f.1.external == k).map (·.2)).getD .free

end Part

namespace Json

/-- The kind an action names as its own. -/
def actionKind? (fields : Assoc Json) : Option ActionKind :=
  ((Assoc.get? fields "type").bind str?).bind ActionKind.ofTag?

mutual

/-- Whether a value is written canonically at a place. -/
def canonical : Shape → Json → Bool
  | .flag, .bool _ => true
  | .flag, .null => true
  | .flag, _ => false
  | .recordId, .str _ => true
  | .recordId, .int _ => true
  | .recordId, _ => false
  | .list shape, .arr items => canonicalItems shape items
  | .table shape, .obj fields => canonicalValues shape fields
  | .part part, .obj fields => canonicalFields part.fields fields
  | .action, .obj fields =>
    match actionKind? fields with
    | some kind => canonicalFields (Part.action kind).fields fields
    | none => true
  | _, _ => true

def canonicalItems (shape : Shape) : List Json → Bool
  | [] => true
  | v :: rest => canonical shape v && canonicalItems shape rest

def canonicalValues (shape : Shape) : List (String × Json) → Bool
  | [] => true
  | (_, v) :: rest => canonical shape v && canonicalValues shape rest

def canonicalFields (declared : List (Key × Shape)) : List (String × Json) → Bool
  | [] => true
  | (k, v) :: rest =>
    !Part.isPlainName declared k && canonical (Part.shapeUnder declared k) v &&
      canonicalFields declared rest

end

end Json

namespace Part

theorem keysApart (part : Part) : KeysApart part.keys := by
  cases part with
  | action kind => cases kind <;> decide
  | _ => decide

theorem keys_action (kind : ActionKind) : (action kind).keys = Keys.ofAction kind := by
  cases kind <;> rfl

theorem shapeUnder_of_mem {part : Part} {f : Key × Shape} (hf : f ∈ part.fields) :
    shapeUnder part.fields f.1.external = f.2 := by
  have hnodup : (part.fields.map fun g => g.1.external).Nodup := by
    have h := part.keysApart.distinct
    rwa [keys, List.map_map] at h
  rw [shapeUnder]
  cases hfind : part.fields.find? fun g => g.1.external == f.1.external with
  | none =>
    rw [List.find?_eq_none] at hfind
    exact absurd (beq_self_eq_true _) (hfind f hf)
  | some g =>
    have hg : g = f := List.inj_on_of_nodup_map hnodup (List.mem_of_find?_eq_some hfind) hf
      (by simpa using List.find?_some hfind)
    rw [hg]
    rfl

end Part

namespace Json

theorem canonical_free (v : Json) : v.canonical .free = true := by
  cases v <;> rfl

theorem canonical_list {shape : Shape} {items : List Json} :
    (Json.arr items).canonical (.list shape) = true ↔ ∀ v ∈ items, v.canonical shape = true := by
  rw [canonical]
  induction items with
  | nil => simp [canonicalItems]
  | cons v rest ih => simp [canonicalItems, ih]

theorem canonical_table {shape : Shape} {fields : List (String × Json)} :
    (Json.obj fields).canonical (.table shape) = true ↔
      ∀ p ∈ fields, p.2.canonical shape = true := by
  rw [canonical]
  induction fields with
  | nil => simp [canonicalValues]
  | cons p rest ih => simp only [canonicalValues, Bool.and_eq_true, ih, List.forall_mem_cons]

theorem canonical_table_free (v : Json) : v.canonical (.table .free) = true := by
  cases v with
  | obj fields => exact canonical_table.mpr fun p _ => canonical_free p.2
  | _ => rfl

theorem canonicalFields_iff {declared : List (Key × Shape)} {fields : List (String × Json)} :
    canonicalFields declared fields = true ↔ ∀ p ∈ fields,
      Part.isPlainName declared p.1 = false ∧
        p.2.canonical (Part.shapeUnder declared p.1) = true := by
  induction fields with
  | nil => simp [canonicalFields]
  | cons p rest ih =>
    simp only [canonicalFields, Bool.and_eq_true, Bool.not_eq_true', ih, List.forall_mem_cons]

/-- A canonical object does not use the plain name of a field that is written otherwise. -/
theorem name_unused {part : Part} {o : Assoc Json}
    (h : (Json.obj o).canonical (.part part) = true) {f : Key × Shape} (hf : f ∈ part.fields)
    (hne : f.1.external ≠ f.1.name) : f.1.name ∉ Assoc.keys o := by
  intro hk
  obtain ⟨p, hp, hpk⟩ := List.mem_map.mp hk
  have hplain := (canonicalFields_iff.mp h p hp).1
  rw [Part.isPlainName, List.any_eq_false] at hplain
  have hpf := hplain f hf
  simp [hpk, hne] at hpf

theorem canonical_field {part : Part} {o : Assoc Json}
    (h : (Json.obj o).canonical (.part part) = true) {f : Key × Shape} (hf : f ∈ part.fields)
    {v : Json} (hv : Assoc.get? o f.1.external = some v) : v.canonical f.2 = true := by
  have hvalue := (canonicalFields_iff.mp h _ (Assoc.mem_of_get? hv)).2
  rwa [Part.shapeUnder_of_mem hf] at hvalue

/-- An action is written canonically as the kind it names. -/
theorem canonical_action {kind : ActionKind} {o : Assoc Json} (hk : actionKind? o = some kind)
    (h : (Json.obj o).canonical .action = true) :
    (Json.obj o).canonical (.part (.action kind)) = true := by
  rw [canonical, hk] at h
  exact h

end Json

end Storyboard

import Storyboard.Document.Reference
import Storyboard.Proofs.Document.Canonical
import Storyboard.Proofs.Document.Soundness
import Storyboard.Proofs.Json.Places

/-!
# What a search finds

A value refers to something by itself in five ways, each at most once. A search that is not
broken off visits the places of a value one after the other and finds what each of them
refers to, and nothing else.
-/
namespace Storyboard.Reference

/-- The ways in which a value by itself refers to something. -/
inductive Route where
  | target
  | screen
  | table
  | dataSource
  | token
  deriving DecidableEq, Repr

namespace Route

/-- All ways, in the order in which a search takes them. -/
def all : List Route := [.target, .screen, .table, .dataSource, .token]

/-- A reference by the text under a key. -/
def byField? (kind : ReferenceKind) (path : List String) (key : String) (fields : Assoc Json) :
    Option Reference :=
  ((Assoc.get? fields key).bind Json.str?).map fun name => ⟨kind, name, path ++ [key]⟩

/-- What a value at a path refers to in a way: an object with the tag of an action by its
`target`, `screen` and `table`, one with a data source by the table of that, and a text by
the token it stands for. -/
def find? (path : List String) : Route → Json → Option Reference
  | .target, .obj fields =>
    if Json.actionKind? fields = some .navigate then byField? .screen path "target" fields
    else none
  | .screen, .obj fields =>
    if (Json.actionKind? fields).isSome then byField? .screen path "screen" fields else none
  | .table, .obj fields =>
    if Json.actionKind? fields = some .submit ∨ Json.actionKind? fields = some .deleteRecord then
      byField? .table path "table" fields
    else none
  | .dataSource, .obj fields =>
    ((Assoc.get? fields "dataSource").bind Json.fields?).bind
      (byField? .table (path ++ ["dataSource"]) "table")
  | .token, .str s => (tokenName? s).map fun name => ⟨.token, name, path⟩
  | _, _ => none

end Route

/-- What a value at a path refers to by itself. -/
def atPlace (path : List String) (v : Json) : List Reference :=
  Route.all.filterMap fun route => route.find? path v

/-- What a value at a path and everything it holds refer to, place by place. -/
def below (path : List String) (v : Json) : List Reference :=
  (Json.places path v).flatMap fun place => atPlace place.1 place.2

theorem ofField_eq (kind : ReferenceKind) (path : List String) (key : String)
    (fields : Assoc Json) :
    ofField kind path key fields = (Route.byField? kind path key fields).toList := by
  rw [ofField, Route.byField?]
  cases Assoc.get? fields key with
  | none => rfl
  | some v => cases v <;> rfl

/-- A tag that is looked up is that of the kind an object names as its own. -/
theorem lookUp_eq_ok {fields : Assoc Json} {kind? : Option ActionKind}
    (h : ActionKind.lookUp ((Assoc.get? fields "type").getD .null) = .ok kind?) :
    kind? = Json.actionKind? fields := by
  rw [Json.actionKind?]
  cases htag : Assoc.get? fields "type" with
  | none =>
    rw [htag] at h
    cases h
    rfl
  | some tag =>
    rw [htag] at h
    cases tag <;> cases h <;> rfl

theorem ofDataSource_eq (path : List String) (fields : Assoc Json) :
    ofDataSource path fields = (Route.find? path .dataSource (.obj fields)).toList := by
  rw [ofDataSource, Route.find?]
  cases Assoc.get? fields "dataSource" with
  | none => rfl
  | some v =>
    cases v with
    | obj source => exact ofField_eq .table _ "table" source
    | _ => rfl

theorem atPlace_obj (path : List String) (fields : Assoc Json) :
    atPlace path (.obj fields) =
      (Route.find? path .target (.obj fields)).toList ++
        (Route.find? path .screen (.obj fields)).toList ++
        (Route.find? path .table (.obj fields)).toList ++
        (Route.find? path .dataSource (.obj fields)).toList := by
  have htoken : Route.find? path .token (.obj fields) = none := rfl
  simp only [atPlace, Route.all, List.filterMap_cons, List.filterMap_nil, htoken]
  cases Route.find? path .target (.obj fields) <;> cases Route.find? path .screen (.obj fields) <;>
    cases Route.find? path .table (.obj fields) <;>
    cases Route.find? path .dataSource (.obj fields) <;> rfl

theorem ofObject_eq_ok {path : List String} {fields : Assoc Json} {refs : List Reference}
    (h : ofObject path fields = .ok refs) : refs = atPlace path (.obj fields) := by
  obtain ⟨kind?, hkind, hrefs⟩ := Stages.bind_eq_ok.mp h
  have hkind := lookUp_eq_ok hkind
  cases hrefs
  rw [atPlace_obj, ofDataSource_eq]
  refine congrArg (· ++ _) ?_
  simp only [Route.find?, ← hkind]
  cases kind? with
  | none => rfl
  | some kind =>
    simp only [ofAction, ofField_eq]
    cases kind <;> simp

theorem withinItems_eq_ok {items : List Json} {path : List String} {index : Nat}
    {refs : List Reference}
    (each : ∀ v ∈ items, ∀ path refs, within path v = .ok refs → refs = below path v)
    (h : withinItems path index items = .ok refs) :
    refs = (Json.placesItems path index items).flatMap fun place => atPlace place.1 place.2 := by
  induction items generalizing index refs with
  | nil =>
    cases h
    rfl
  | cons v rest ih =>
    obtain ⟨hv, hrest⟩ := List.forall_mem_cons.mp each
    obtain ⟨here, hhere, h⟩ := Stages.bind_eq_ok.mp h
    obtain ⟨others, hothers, h⟩ := Stages.bind_eq_ok.mp h
    cases h
    rw [Json.placesItems, List.flatMap_append, ← ih hrest hothers, hv _ _ hhere, below]

theorem withinFields_eq_ok {fields : List (String × Json)} {path : List String}
    {refs : List Reference}
    (each : ∀ p ∈ fields, ∀ path refs, within path p.2 = .ok refs → refs = below path p.2)
    (h : withinFields path fields = .ok refs) :
    refs = (Json.placesFields path fields).flatMap fun place => atPlace place.1 place.2 := by
  induction fields generalizing refs with
  | nil =>
    cases h
    rfl
  | cons p rest ih =>
    obtain ⟨hp, hrest⟩ := List.forall_mem_cons.mp each
    obtain ⟨here, hhere, h⟩ := Stages.bind_eq_ok.mp h
    obtain ⟨others, hothers, h⟩ := Stages.bind_eq_ok.mp h
    cases h
    rw [Json.placesFields, List.flatMap_append, ← ih hrest hothers, hp _ _ hhere, below]

/-- A search that is not broken off finds what the places of a value refer to. -/
theorem within_eq_ok {v : Json} :
    ∀ {path : List String} {refs : List Reference}, within path v = .ok refs →
      refs = below path v := by
  induction v using Json.induction with
  | arr items ih =>
    intro path refs h
    rw [within] at h
    have hitems := withinItems_eq_ok (fun u hu path refs => ih u hu) h
    rw [below, Json.places, List.flatMap_cons, ← hitems]
    rfl
  | obj fields ih =>
    intro path refs h
    rw [within] at h
    obtain ⟨own, hown, h⟩ := Stages.bind_eq_ok.mp h
    obtain ⟨inside, hinside, h⟩ := Stages.bind_eq_ok.mp h
    cases h
    have hfields := withinFields_eq_ok (fun p hp path refs => ih p hp) hinside
    rw [below, Json.places, List.flatMap_cons, ← hfields, ofObject_eq_ok hown]
  | str s =>
    intro path refs h
    cases h
    rw [ofText]
    cases htoken : tokenName? s <;>
      simp [below, Json.places, atPlace, Route.all, Route.find?, htoken]
  | _ =>
    intro path refs h
    cases h
    rfl

/-- A text is the name of a reference or, for a token, stands for it. -/
def NamedBy (r : Reference) (s : String) : Prop :=
  match r.kind with
  | .token => tokenName? s = some r.name
  | _ => s = r.name

theorem byField?_located {kind : ReferenceKind} {path : List String} {key : String}
    {fields : Assoc Json} {r : Reference} {v : Json} {start : List String}
    (named : kind ≠ .token) (leads : v.Leads path (.obj fields))
    (h : Route.byField? kind (start ++ path) key fields = some r) :
    ∃ inner s, r.path = start ++ inner ∧ v.Leads inner (.str s) ∧ r.NamedBy s := by
  obtain ⟨name, hname, rfl⟩ := Option.map_eq_some_iff.mp h
  obtain ⟨u, hu, hstr⟩ := Option.bind_eq_some_iff.mp hname
  cases u <;> cases hstr
  refine ⟨path ++ [key], name, List.append_assoc .., leads.under (Assoc.mem_of_get? hu), ?_⟩
  cases kind with
  | token => exact absurd rfl named
  | _ => exact rfl

/-- The path of a reference leads to the text that makes it. -/
theorem find?_located {route : Route} {v u : Json} {start path : List String} {r : Reference}
    (leads : v.Leads path u) (h : route.find? (start ++ path) u = some r) :
    ∃ inner s, r.path = start ++ inner ∧ v.Leads inner (.str s) ∧ r.NamedBy s := by
  unfold Route.find? at h
  split at h
  · split at h
    · exact byField?_located (by decide) leads h
    · cases h
  · split at h
    · exact byField?_located (by decide) leads h
    · cases h
  · split at h
    · exact byField?_located (by decide) leads h
    · cases h
  · obtain ⟨source, hsource, h⟩ := Option.bind_eq_some_iff.mp h
    obtain ⟨w, hw, hfields⟩ := Option.bind_eq_some_iff.mp hsource
    cases w <;> cases hfields
    rw [List.append_assoc] at h
    exact byField?_located (by decide) (leads.under (Assoc.mem_of_get? hw)) h
  · rename_i s
    obtain ⟨name, hname, rfl⟩ := Option.map_eq_some_iff.mp h
    exact ⟨path, s, rfl, leads, hname⟩
  · cases h

end Storyboard.Reference

import Storyboard.Proofs.Json.Places
import Storyboard.Template.Sharing

/-!
# Substituting texts

Tokens and placeholders are resolved by walks that keep the shape of a value and put something in
the place of each text in it. What such walks have in common is said of `Json.substitute`: one
substitution after another is a single one, and two of them give one result for a value exactly if
they give one result for each text that it holds.
-/
namespace Storyboard

namespace Json

mutual

/-- The value with each text in it replaced. What is put in its place is not looked at again. -/
def substitute (f : String → Json) : Json → Json
  | .str s => f s
  | .arr items => .arr (substituteItems f items)
  | .obj fields => .obj (substituteFields f fields)
  | v => v

def substituteItems (f : String → Json) : List Json → List Json
  | [] => []
  | v :: rest => substitute f v :: substituteItems f rest

def substituteFields (f : String → Json) : List (String × Json) → List (String × Json)
  | [] => []
  | (k, v) :: rest => (k, substitute f v) :: substituteFields f rest

end

variable {f g : String → Json}

/-- A walk through values that replaces texts, with its parts for lists and objects. A walk that
is written so satisfies this by definition. -/
structure Substitutes (f : String → Json) (walk : Json → Json)
    (walkItems : List Json → List Json)
    (walkFields : List (String × Json) → List (String × Json)) : Prop where
  str : ∀ s, walk (.str s) = f s := by intros; rfl
  arr : ∀ items, walk (.arr items) = .arr (walkItems items) := by intros; rfl
  obj : ∀ fields, walk (.obj fields) = .obj (walkFields fields) := by intros; rfl
  null : walk .null = .null := by rfl
  bool : ∀ b, walk (.bool b) = .bool b := by intros; rfl
  int : ∀ n, walk (.int n) = .int n := by intros; rfl
  float : ∀ x, walk (.float x) = .float x := by intros; rfl
  noItems : walkItems [] = [] := by rfl
  items : ∀ v rest, walkItems (v :: rest) = walk v :: walkItems rest := by intros; rfl
  noFields : walkFields [] = [] := by rfl
  fields : ∀ k v rest, walkFields ((k, v) :: rest) = (k, walk v) :: walkFields rest := by
    intros; rfl

namespace Substitutes

variable {walk : Json → Json} {walkItems : List Json → List Json}
  {walkFields : List (String × Json) → List (String × Json)}

theorem items_eq (h : Substitutes f walk walkItems walkFields) (items : List Json) :
    walkItems items = items.map walk := by
  induction items with
  | nil => exact h.noItems
  | cons v rest ih => rw [h.items, ih, List.map_cons]

theorem fields_eq (h : Substitutes f walk walkItems walkFields) (fields : List (String × Json)) :
    walkFields fields = Assoc.mapValues walk fields := by
  induction fields with
  | nil => exact h.noFields
  | cons p rest ih => rw [h.fields, ih, Assoc.mapValues, Assoc.mapValues, List.map_cons]

end Substitutes

theorem substitutes (f : String → Json) :
    Substitutes f (substitute f) (substituteItems f) (substituteFields f) := {}

@[simp] theorem substitute_arr (items : List Json) :
    (Json.arr items).substitute f = .arr (items.map (substitute f)) := by
  rw [substitute, (substitutes f).items_eq]

@[simp] theorem substitute_obj (fields : List (String × Json)) :
    (Json.obj fields).substitute f = .obj (Assoc.mapValues (substitute f) fields) := by
  rw [substitute, (substitutes f).fields_eq]

/-- One substitution after another: the second one looks at what the first one put in. -/
theorem substitute_substitute (v : Json) :
    (v.substitute f).substitute g = v.substitute fun s => (f s).substitute g := by
  induction v using Json.induction with
  | arr items ih =>
    rw [substitute_arr, substitute_arr, substitute_arr, List.map_map]
    exact congrArg Json.arr (List.map_congr_left ih)
  | obj fields ih =>
    rw [substitute_obj, substitute_obj, substitute_obj, Assoc.mapValues_mapValues]
    exact congrArg Json.obj (Assoc.mapValues_congr ih)
  | _ => rfl

/-- Where a text stood, what is put in its place stands. -/
theorem Leads.substitute {v : Json} {path : List String} {s : String}
    (h : v.Leads path (.str s)) (f : String → Json) : (v.substitute f).Leads path (f s) := by
  generalize hw : Json.str s = w at h
  induction h with
  | here => subst hw; exact .here
  | key field _ ih =>
    rw [substitute_obj]
    exact .key (List.mem_map_of_mem field) (ih hw)
  | index item _ ih =>
    rw [substitute_arr]
    exact .index (by rw [List.getElem?_map, item]; rfl) (ih hw)

/-- Two substitutions agree on a value exactly if they agree on all texts in it. -/
theorem substitute_eq_iff {v : Json} :
    v.substitute f = v.substitute g ↔ ∀ path s, v.Leads path (.str s) → f s = g s := by
  induction v using Json.induction with
  | str s =>
    refine ⟨fun h path s' hs => ?_, fun h => h [] s .here⟩
    cases hs
    exact h
  | arr items ih =>
    rw [substitute_arr, substitute_arr, arr.injEq, List.map_inj_left]
    constructor
    · intro h path s hs
      cases hs with
      | index item hrest =>
        have hmem := List.mem_of_getElem? item
        exact (ih _ hmem).mp (h _ hmem) _ s hrest
    · intro h v hv
      obtain ⟨i, hi⟩ := List.getElem?_of_mem hv
      exact (ih v hv).mpr fun path s hs => h _ s (.index hi hs)
  | obj fields ih =>
    rw [substitute_obj, substitute_obj, obj.injEq, Assoc.mapValues, Assoc.mapValues,
      List.map_inj_left]
    constructor
    · intro h path s hs
      cases hs with
      | key field hrest => exact (ih _ field).mp (Prod.mk.inj (h _ field)).2 _ s hrest
    · intro h p hp
      exact congrArg (Prod.mk p.1) ((ih p hp).mpr fun path s hs => h _ s (.key hp hs))
  | _ =>
    refine ⟨fun _ path s hs => ?_, fun _ => rfl⟩
    cases hs

/-- Every walk that replaces texts is a substitution. -/
theorem Substitutes.eq_substitute {walk : Json → Json} {walkItems : List Json → List Json}
    {walkFields : List (String × Json) → List (String × Json)}
    (h : Substitutes f walk walkItems walkFields) (v : Json) :
    walk v = v.substitute f := by
  induction v using Json.induction with
  | str s => exact h.str s
  | arr items ih => rw [h.arr, h.items_eq, substitute_arr, List.map_congr_left ih]
  | obj fields ih => rw [h.obj, h.fields_eq, substitute_obj, Assoc.mapValues_congr ih]
  | null => exact h.null
  | bool b => exact h.bool b
  | int n => exact h.int n
  | float x => exact h.float x

end Json

namespace Token

theorem substitutes (tokens : Assoc Json) :
    Json.Substitutes (resolveString tokens) (resolveAll tokens) (resolveItems tokens)
      (resolveFields tokens) := {}

theorem resolveAll_eq (tokens : Assoc Json) (v : Json) :
    resolveAll tokens v = v.substitute (resolveString tokens) :=
  (substitutes tokens).eq_substitute v

end Token

namespace Template

theorem substitutes (context : Json) :
    Json.Substitutes (resolveString context) (resolve context) (resolveItems context)
      (resolveFields context) := {}

theorem resolve_eq (context v : Json) : resolve context v = v.substitute (resolveString context) :=
  (substitutes context).eq_substitute v

end Template

theorem resolveValue_substitutes (context : Json) (tokens : Assoc Json) :
    Json.Substitutes (fun s => Template.resolve context (Token.resolveString tokens s))
      (resolveValue context tokens) (resolveValueItems context tokens)
      (resolveValueFields context tokens) := {}

theorem resolveValue_eq (context : Json) (tokens : Assoc Json) (v : Json) :
    resolveValue context tokens v =
      v.substitute fun s => Template.resolve context (Token.resolveString tokens s) :=
  (resolveValue_substitutes context tokens).eq_substitute v

namespace Token

/-- The token that a text at a place refers to. -/
def referenceAt? (place : List String × Json) : Option String := place.2.str?.bind name?

mutual

/-- The names are those that the texts refer to, one place after the other. -/
theorem references_eq (path : List String) :
    ∀ v : Json, references v = (v.places path).filterMap referenceAt?
  | .str s => by
    show (name? s).toList = [(path, Json.str s)].filterMap referenceAt?
    cases hname : name? s <;> simp [referenceAt?, Json.str?, hname]
  | .arr items => referencesItems_eq path 0 items
  | .obj fields => referencesFields_eq path fields
  | .null | .bool _ | .int _ | .float _ => rfl

theorem referencesItems_eq (path : List String) (index : Nat) :
    ∀ items, referencesItems items = (Json.placesItems path index items).filterMap referenceAt?
  | [] => rfl
  | v :: rest => by
    rw [referencesItems, Json.placesItems, List.filterMap_append,
      references_eq (path ++ [toString index]) v, referencesItems_eq path (index + 1) rest]

theorem referencesFields_eq (path : List String) :
    ∀ fields, referencesFields fields = (Json.placesFields path fields).filterMap referenceAt?
  | [] => rfl
  | (key, v) :: rest => by
    rw [referencesFields, Json.placesFields, List.filterMap_append,
      references_eq (path ++ [key]) v, referencesFields_eq path rest]

end

theorem mem_references {v : Json} {name : String} :
    name ∈ references v ↔ ∃ path s, v.Leads path (.str s) ∧ name? s = some name := by
  rw [references_eq [] v, List.mem_filterMap]
  constructor
  · rintro ⟨⟨path, w⟩, hmem, hname⟩
    obtain ⟨_, -, hleads⟩ := Json.mem_places.mp hmem
    cases w with
    | str s => exact ⟨_, s, hleads, hname⟩
    | _ => cases hname
  · rintro ⟨path, s, hleads, hname⟩
    exact ⟨(path, .str s), Json.mem_places.mpr ⟨path, rfl, hleads⟩, hname⟩

end Token

/-- Resolving a value in one walk is resolving its tokens and after them the placeholders. The
tokens that count are those that the value itself refers to: what looks like one in the value of a
token or in what a placeholder inserts is left as it is. -/
theorem resolves_tokens_then_templates (context v : Json) :
    (∀ tokens, resolveValue context tokens v =
      Template.resolve context (Token.resolveAll tokens v)) ∧
    (∀ tokens tokens', (∀ name ∈ Token.references v,
        Token.lookup tokens name = Token.lookup tokens' name) →
      resolveValue context tokens v = resolveValue context tokens' v) := by
  refine ⟨fun tokens => ?_, fun tokens tokens' agree => ?_⟩
  · calc resolveValue context tokens v
        = v.substitute fun s => Template.resolve context (Token.resolveString tokens s) :=
          resolveValue_eq context tokens v
      _ = v.substitute fun s =>
            (Token.resolveString tokens s).substitute (Template.resolveString context) :=
          Json.substitute_eq_iff.mpr fun _ _ _ => Template.resolve_eq context _
      _ = (v.substitute (Token.resolveString tokens)).substitute
            (Template.resolveString context) := (Json.substitute_substitute v).symm
      _ = Template.resolve context (Token.resolveAll tokens v) := by
          rw [Token.resolveAll_eq, Template.resolve_eq]
  · rw [resolveValue_eq, resolveValue_eq]
    refine Json.substitute_eq_iff.mpr fun path s hs => congrArg (Template.resolve context) ?_
    unfold Token.resolveString
    cases hname : Token.name? s with
    | none => rfl
    | some name =>
      rw [Option.bind_some, Option.bind_some,
        agree name (Token.mem_references.mpr ⟨path, s, hs, hname⟩)]

/-- A note with a token for its title and a placeholder for its text. -/
def headedNote : Json :=
  .obj [("title", .str "$heading"), ("body", .str "\x7b\x7b text \x7d\x7d")]

/-- The value of the first token looks like the second one. -/
def headingTokens : Assoc Json := [("heading", .str "$accent"), ("accent", .str "red")]

/-- What is inserted into the body looks like the token of the title. -/
theorem heading_replaced_once :
    let context : Json := .obj [("text", .str "$heading")]
    let fewer : Assoc Json := [("heading", .str "$accent")]
    (∀ name ∈ Token.references headedNote,
      Token.lookup headingTokens name = Token.lookup fewer name) ∧
    resolveValue context headingTokens headedNote =
      Template.resolve context (Token.resolveAll headingTokens headedNote) ∧
    resolveValue context headingTokens headedNote = resolveValue context fewer headedNote ∧
    resolveValue context headingTokens headedNote =
      .obj [("title", .str "$accent"), ("body", .str "$heading")] := by
  intro context fewer
  have hnames : Token.references headedNote = ["heading"] := rfl
  have agree : ∀ name ∈ Token.references headedNote,
      Token.lookup headingTokens name = Token.lookup fewer name := by
    rw [hnames]
    exact List.forall_mem_singleton.mpr rfl
  obtain ⟨passes, counted⟩ := resolves_tokens_then_templates context headedNote
  exact ⟨agree, passes headingTokens, counted _ _ agree, rfl⟩

end Storyboard

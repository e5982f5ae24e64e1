import Storyboard.Document.Validation
import Storyboard.Proofs.Document.Levels

/-!
# References of documents that are read again

Only texts refer to something, and only texts and containers decide whether an object is
an action or a data source. So a value keeps its references, each in its place, whatever
becomes of its doubles, and a settled document has the dangling references of the
document.
-/
namespace Storyboard

/-- What stands for a double refers to nothing and is no container. -/
def Inert (f : Binary64 → Json) : Prop := ∀ x, f x = .null ∨ ∃ y, f x = .float y

theorem inert_finiteOrNull : Inert Json.finiteOrNull := by
  intro x
  unfold Json.finiteOrNull
  split
  · exact .inr ⟨x, rfl⟩
  · exact .inl rfl

theorem inert_plain : Inert fun x => .float x.plain := fun x => .inr ⟨x.plain, rfl⟩

/-- What is blind to doubles is blind to what stands for them. -/
theorem Inert.eq_of_float {α : Type} {f : Binary64 → Json} {g : Json → α} (hf : Inert f)
    (hg : ∀ x, g (.float x) = g .null) (x : Binary64) :
    g ((Json.float x).mapFloats f) = g (.float x) := by
  rw [Json.mapFloats, hg]
  rcases hf x with hx | ⟨y, hx⟩
  · rw [hx]
  · rw [hx, hg]

namespace Reference

section Inert

variable {f : Binary64 → Json}

theorem ofValue_mapFloats (hf : Inert f) (kind : ReferenceKind) (path : List String) (v : Json) :
    ofValue kind path (v.mapFloats f) = ofValue kind path v := by
  cases v with
  | float x => exact hf.eq_of_float (fun _ => rfl) x
  | arr items => rw [Json.mapFloats_arr]; rfl
  | obj fields => rw [Json.mapFloats_obj]; rfl
  | _ => rfl

theorem lookUp_mapFloats (hf : Inert f) (v : Json) :
    ActionKind.lookUp (v.mapFloats f) = ActionKind.lookUp v := by
  cases v with
  | float x => exact hf.eq_of_float (fun _ => rfl) x
  | arr items => rw [Json.mapFloats_arr]; rfl
  | obj fields => rw [Json.mapFloats_obj]; rfl
  | _ => rfl

/-- What stands under a key, nothing counting as `null`. -/
theorem get?_getD_mapFloats (fields : Assoc Json) (key : String) :
    (Assoc.get? (Assoc.mapValues (Json.mapFloats f) fields) key).getD .null =
      ((Assoc.get? fields key).getD .null).mapFloats f := by
  rw [Assoc.get?_mapValues]
  cases Assoc.get? fields key <;> rfl

theorem ofField_mapFloats (hf : Inert f) (kind : ReferenceKind) (path : List String)
    (key : String) (fields : Assoc Json) :
    ofField kind path key (Assoc.mapValues (Json.mapFloats f) fields) =
      ofField kind path key fields := by
  rw [ofField, get?_getD_mapFloats, ofValue_mapFloats hf]
  rfl

theorem ofAction_mapFloats (hf : Inert f) (path : List String) (fields : Assoc Json)
    (kind : ActionKind) :
    ofAction path (Assoc.mapValues (Json.mapFloats f) fields) kind = ofAction path fields kind := by
  simp only [ofAction, ofField_mapFloats hf]

theorem ofDataSource_mapFloats (hf : Inert f) (path : List String) (fields : Assoc Json) :
    ofDataSource path (Assoc.mapValues (Json.mapFloats f) fields) = ofDataSource path fields := by
  unfold ofDataSource
  rw [Assoc.get?_mapValues]
  cases Assoc.get? fields "dataSource" with
  | none => rfl
  | some v =>
    rw [Option.map_some]
    cases v with
    | float x =>
      exact hf.eq_of_float (g := fun u => ofDataSource path [("dataSource", u)]) (fun _ => rfl) x
    | arr items => rw [Json.mapFloats_arr]
    | obj source =>
      rw [Json.mapFloats_obj]
      exact ofField_mapFloats hf .table _ "table" source
    | _ => rfl

theorem ofObject_mapFloats (hf : Inert f) (path : List String) (fields : Assoc Json) :
    ofObject path (Assoc.mapValues (Json.mapFloats f) fields) = ofObject path fields := by
  unfold ofObject
  rw [get?_getD_mapFloats, lookUp_mapFloats hf, ofDataSource_mapFloats hf]
  simp only [ofAction_mapFloats hf]

theorem withinItems_map {items : List Json}
    (h : ∀ v ∈ items, ∀ path, within path (v.mapFloats f) = within path v) (path : List String)
    (index : Nat) : withinItems path index (items.map (Json.mapFloats f)) =
      withinItems path index items := by
  induction items generalizing index with
  | nil => rfl
  | cons v rest ih =>
    obtain ⟨hv, hrest⟩ := List.forall_mem_cons.mp h
    rw [List.map_cons, withinItems, withinItems, hv, ih hrest]

theorem withinFields_mapValues {fields : List (String × Json)}
    (h : ∀ p ∈ fields, ∀ path, within path (p.2.mapFloats f) = within path p.2)
    (path : List String) : withinFields path (Assoc.mapValues (Json.mapFloats f) fields) =
      withinFields path fields := by
  induction fields with
  | nil => rfl
  | cons p rest ih =>
    obtain ⟨hp, hrest⟩ := List.forall_mem_cons.mp h
    have hcons : Assoc.mapValues (Json.mapFloats f) (p :: rest) =
        (p.1, p.2.mapFloats f) :: Assoc.mapValues (Json.mapFloats f) rest := rfl
    rw [hcons, withinFields, withinFields, hp, ih hrest]

/-- The references of a value do not depend on its doubles. -/
theorem within_mapFloats (hf : Inert f) (v : Json) :
    ∀ path, within path (v.mapFloats f) = within path v := by
  induction v using Json.induction with
  | float x => exact fun path => hf.eq_of_float (fun _ => rfl) x
  | arr items ih =>
    intro path
    rw [Json.mapFloats_arr, within, within, withinItems_map ih]
  | obj fields ih =>
    intro path
    rw [Json.mapFloats_obj, within, within, ofObject_mapFloats hf, withinFields_mapValues ih]
  | _ => exact fun _ => rfl

end Inert

theorem within_reread (path : List String) (v : Json) : within path v.reread = within path v :=
  within_mapFloats inert_plain v path

end Reference

theorem Theme.dump_verbatim_settled (t : Theme) :
    t.settled.dump .verbatim = (t.dump .verbatim).mapFloats Json.finiteOrNull := by
  have hextra : Assoc.mapValues (Json.mapFloats Json.finiteOrNull) t.extra = t.settled.extra := by
    rw [Theme.settled, Json.finitizeFields_eq]
    exact Assoc.mapValues_congr fun p _ => (Json.finitize_eq_mapFloats p.2).symm
  have hslot : ∀ (key : Key) (s : Slot String),
      (Entry.ofSlot key .str s).mapFloats Json.finiteOrNull = .ofSlot key .str s := by
    intro key s
    cases s <;> rfl
  rw [Theme.dump, Theme.dump, mapFloats_assemble .verbatim _ hextra]
  simp only [List.map_cons, List.map_nil, hslot]
  rfl

namespace Definition

theorem themeReferences_settled (d : Definition) :
    d.settled.themeReferences = d.themeReferences := by
  obtain ⟨version, ⟨name, theme, tokens, schema, auth, extra⟩, screens, initial, rest⟩ := d
  cases theme with
  | value t =>
    have hdump := t.dump_verbatim_settled
    have hwithin := Reference.within_mapFloats inert_finiteOrNull (t.dump .verbatim)
      ["app", "theme"]
    rw [← hdump] at hwithin
    exact hwithin
  | _ => rfl

theorem screenReferences_settled (screens : Assoc Screen) :
    screenReferences (Assoc.mapValues Screen.settled screens) = screenReferences screens := by
  induction screens with
  | nil => rfl
  | cons p rest ih =>
    have hcons : Assoc.mapValues Screen.settled (p :: rest) =
        (p.1, p.2.settled) :: Assoc.mapValues Screen.settled rest := rfl
    rw [hcons, screenReferences, screenReferences, Screen.fits_settled, Screen.dump_settled,
      Reference.within_reread, ih]

theorem references_settled (d : Definition) : d.settled.references = d.references := by
  have hauth : d.settled.authentication.map Reference.ofAuthentication =
      d.authentication.map Reference.ofAuthentication := by
    obtain ⟨version, ⟨name, theme, tokens, schema, auth, extra⟩, screens, initial, rest⟩ := d
    cases auth <;> rfl
  have hscreens : screenReferences d.settled.screens = screenReferences d.screens :=
    screenReferences_settled d.screens
  unfold references
  rw [themeReferences_settled, hauth, hscreens]
  rfl

theorem declares_settled (d : Definition) (r : Reference) :
    d.settled.declares r = d.declares r := by
  have hscreens : d.settled.namesScreen r.name = d.namesScreen r.name := by
    rw [namesScreen, namesScreen, settled, Assoc.has_mapValues]
  have htables : d.settled.tableNames = d.tableNames := by
    obtain ⟨version, ⟨name, theme, tokens, schema, auth, extra⟩, screens, initial, rest⟩ := d
    cases schema with
    | value tables => exact Assoc.keys_mapValues Table.settled tables
    | _ => rfl
  have htokens : Assoc.has d.settled.tokens r.name = Assoc.has d.tokens r.name := by
    obtain ⟨version, ⟨name, theme, tokens, schema, auth, extra⟩, screens, initial, rest⟩ := d
    cases tokens with
    | value given =>
      simp [Definition.tokens, settled, Metadata.settled, Slot.toOption]
    | _ => rfl
  unfold declares
  rw [hscreens, htables, htokens]

/-- Settling leaves nothing dangling and nothing answered that was not. -/
theorem danglingReferences_settled (d : Definition) :
    d.settled.danglingReferences = d.danglingReferences := by
  unfold danglingReferences
  rw [references_settled]
  simp only [declares_settled]

end Definition

end Storyboard

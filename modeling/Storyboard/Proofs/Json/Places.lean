import Storyboard.Proofs.Assoc
import Storyboard.Proofs.Json.Legible

/-!
# Places in values

A path of keys and indexes leads from a value to one inside it. `places` lists what a value
holds, itself first and every field and item with what it holds before the next one, each
under the path that leads to it.
-/
namespace Storyboard.Json

/-- A path of keys and indexes leads from one value to another. -/
inductive Leads : Json → List String → Json → Prop
  | here {v : Json} : Leads v [] v
  | key {fields : Assoc Json} {key : String} {u w : Json} {path : List String}
    (field : (key, u) ∈ fields) (rest : Leads u path w) : Leads (.obj fields) (key :: path) w
  | index {items : List Json} {index : Nat} {u w : Json} {path : List String}
    (item : items[index]? = some u) (rest : Leads u path w) :
    Leads (.arr items) (toString index :: path) w

/-- What stands under keys, one inside the other. -/
def at? : Json → List String → Option Json
  | v, [] => some v
  | .obj fields, key :: path => (Assoc.get? fields key).bind fun u => at? u path
  | _, _ :: _ => none

mutual

/-- What a value at a path holds, each with its path. -/
def places (path : List String) : Json → List (List String × Json)
  | .arr items => (path, .arr items) :: placesItems path 0 items
  | .obj fields => (path, .obj fields) :: placesFields path fields
  | v => [(path, v)]

def placesItems (path : List String) (index : Nat) : List Json → List (List String × Json)
  | [] => []
  | v :: rest => places (path ++ [toString index]) v ++ placesItems path (index + 1) rest

def placesFields (path : List String) : List (String × Json) → List (List String × Json)
  | [] => []
  | (key, v) :: rest => places (path ++ [key]) v ++ placesFields path rest

end

namespace Leads

variable {v u w : Json} {path inner : List String}

theorem append (h : Leads v path u) (h' : Leads u inner w) : Leads v (path ++ inner) w := by
  induction h with
  | here => exact h'
  | key field _ ih => exact .key field (ih h')
  | index item _ ih => exact .index item (ih h')

theorem under {fields : Assoc Json} {key : String} (h : Leads v path (.obj fields))
    (field : (key, u) ∈ fields) : Leads v (path ++ [key]) u :=
  h.append (.key field .here)

theorem of_at? (h : v.at? path = some u) : Leads v path u := by
  induction path generalizing v with
  | nil =>
    rw [at?] at h
    cases h
    exact .here
  | cons key path ih =>
    cases v with
    | obj fields =>
      rw [at?] at h
      obtain ⟨w, hw, hrest⟩ := Option.bind_eq_some_iff.mp h
      exact .key (Assoc.mem_of_get? hw) (ih hrest)
    | _ => cases h

end Leads

theorem mem_placesItems {items : List Json} {path at' : List String} {index : Nat} {w : Json} :
    (at', w) ∈ placesItems path index items ↔
      ∃ i u, items[i]? = some u ∧ (at', w) ∈ places (path ++ [toString (index + i)]) u := by
  induction items generalizing index with
  | nil => simp [placesItems]
  | cons v rest ih =>
    rw [placesItems, List.mem_append, ih]
    constructor
    · rintro (hhere | ⟨i, u, hu, hmem⟩)
      · exact ⟨0, v, rfl, hhere⟩
      · exact ⟨i + 1, u, hu, by rwa [Nat.add_right_comm] at hmem⟩
    · rintro ⟨i, u, hu, hmem⟩
      cases i with
      | zero =>
        cases hu
        exact .inl hmem
      | succ i => exact .inr ⟨i, u, hu, by rwa [Nat.add_right_comm]⟩

theorem mem_placesFields {fields : List (String × Json)} {path at' : List String} {w : Json} :
    (at', w) ∈ placesFields path fields ↔
      ∃ p ∈ fields, (at', w) ∈ places (path ++ [p.1]) p.2 := by
  induction fields with
  | nil => simp [placesFields]
  | cons p rest ih => rw [placesFields, List.mem_append, ih, List.exists_mem_cons_iff]

/-- The places of a value are those to which a path leads, under that path. -/
theorem mem_places {v : Json} : ∀ {path at' : List String} {w : Json},
    (at', w) ∈ places path v ↔ ∃ inner, at' = path ++ inner ∧ v.Leads inner w := by
  induction v using Json.induction with
  | arr items ih =>
    intro path at' w
    rw [places, List.mem_cons, mem_placesItems]
    constructor
    · rintro (heq | ⟨i, u, hu, hmem⟩)
      · cases heq
        exact ⟨[], (List.append_nil _).symm, .here⟩
      · obtain ⟨inner, rfl, hleads⟩ := (ih u (List.mem_of_getElem? hu)).mp hmem
        rw [Nat.zero_add, List.append_assoc]
        exact ⟨_, rfl, .index hu hleads⟩
    · rintro ⟨inner, rfl, hleads⟩
      cases hleads with
      | here => exact .inl (by rw [List.append_nil])
      | @index _ i u _ rest hu hleads =>
        refine .inr ⟨i, u, hu, (ih u (List.mem_of_getElem? hu)).mpr ⟨rest, ?_, hleads⟩⟩
        rw [Nat.zero_add, List.append_assoc]
        rfl
  | obj fields ih =>
    intro path at' w
    rw [places, List.mem_cons, mem_placesFields]
    constructor
    · rintro (heq | ⟨p, hp, hmem⟩)
      · cases heq
        exact ⟨[], (List.append_nil _).symm, .here⟩
      · obtain ⟨inner, rfl, hleads⟩ := (ih p hp).mp hmem
        rw [List.append_assoc]
        exact ⟨_, rfl, .key hp hleads⟩
    · rintro ⟨inner, rfl, hleads⟩
      cases hleads with
      | here => exact .inl (by rw [List.append_nil])
      | @key _ key u _ rest hu hleads =>
        refine .inr ⟨(key, u), hu, (ih (key, u) hu).mpr ⟨rest, ?_, hleads⟩⟩
        rw [List.append_assoc]
        rfl
  | _ =>
    intro path at' w
    rw [places]
    · constructor
      · intro hmem
        cases List.mem_singleton.mp hmem
        exact ⟨[], (List.append_nil _).symm, .here⟩
      · rintro ⟨inner, rfl, hleads⟩
        cases hleads
        rw [List.append_nil]
        exact List.mem_singleton_self _
    · nofun
    · nofun

end Storyboard.Json

import Mathlib.Data.List.Nodup
import Storyboard.Proofs.Json.Legible
import Storyboard.Schema.Field

/-!
# Objects that are read and written again

An object is read into the values of its declared fields and its extra ones; what is
written from them is an object again, its given fields under their external spelling and
the extra fields behind them. These lemmas say where the two objects agree: each given
field stands under its external spelling, the others under none, and the extra fields are
the same ones.

The delicate keys are the second spellings. One that lost against the first stays among
the extra fields, so it must not be taken for the field once the object is read again; and
a field that was left out must not be found among the extra fields of the other keys.
-/
namespace Storyboard

/-- No spelling of a declared field is a spelling of another one under which it is
written. -/
structure KeysApart (keys : List Key) : Prop where
  distinct : (keys.map (·.external)).Nodup
  apart : ∀ f ∈ keys, ∀ g ∈ keys, f.name = g.external → f = g

instance (keys : List Key) : Decidable (KeysApart keys) :=
  decidable_of_iff ((keys.map (·.external)).Nodup ∧
      ∀ f ∈ keys, ∀ g ∈ keys, f.name = g.external → f = g)
    ⟨fun h => ⟨h.1, h.2⟩, fun h => ⟨h.1, h.2⟩⟩

/-- Entries tell which fields an object has. -/
structure Tells (entries : List Entry) (o : Assoc Json) : Prop where
  apart : KeysApart (entries.map (·.key))
  distinct : (Assoc.keys o).Nodup
  given : ∀ e ∈ entries, e.given = (e.key.used? o).isSome

/-- An object holds what an entry says: the field under its external spelling, or nothing
under either. -/
structure Respells (o : Assoc Json) (e : Entry) : Prop where
  used : e.key.used? o = if e.given then some e.key.external else none
  value : e.given = true → Assoc.get? o e.key.external = some e.value.reread

namespace Key

theorem used?_of_external {key : Key} {o : Assoc Json} (h : Assoc.has o key.external = true) :
    key.used? o = some key.external := by
  rw [used?, if_pos h]

theorem used?_eq_none {key : Key} {o : Assoc Json} :
    key.used? o = none ↔ key.external ∉ Assoc.keys o ∧ key.name ∉ Assoc.keys o := by
  rw [← Assoc.has_eq_true, ← Assoc.has_eq_true, used?]
  split
  · simp [*]
  · split <;> simp [*]

end Key

theorem mem_keys_extraFields {keys : List Key} {o : Assoc Json} {k : String} :
    k ∈ Assoc.keys (extraFields keys o) ↔
      k ∈ Assoc.keys o ∧ ∀ key ∈ keys, key.used? o ≠ some k := by
  simp only [Assoc.keys, extraFields, List.mem_map, List.mem_filter, Bool.not_eq_true',
    List.contains_eq_mem, decide_eq_false_iff_not, List.mem_filterMap, not_exists, not_and]
  constructor
  · rintro ⟨p, ⟨hp, hunused⟩, rfl⟩
    exact ⟨⟨p, hp, rfl⟩, hunused⟩
  · rintro ⟨⟨p, hp, rfl⟩, hunused⟩
    exact ⟨p, ⟨hp, hunused⟩, rfl⟩

/-- The external spelling of a declared field is never among the extra fields. -/
theorem external_not_extraFields {keys : List Key} {key : Key} (h : key ∈ keys) (o : Assoc Json) :
    key.external ∉ Assoc.keys (extraFields keys o) := by
  intro hk
  obtain ⟨ho, hunused⟩ := mem_keys_extraFields.mp hk
  exact hunused key h (Key.used?_of_external (Assoc.has_eq_true.mpr ho))

/-- The fields of an object as it is written. -/
def writtenFields (entries : List Entry) (extra : Assoc Json) : Assoc Json :=
  (entries.filter (·.given)).map (fun e => (e.key.external, e.value)) ++
    Json.finitizeFields extra

/-- The fields of an object once they were written and read again. -/
def rereadFields (entries : List Entry) (o : Assoc Json) : Assoc Json :=
  Assoc.mapValues Json.reread (writtenFields entries (extraFields (entries.map (·.key)) o))

namespace Tells

variable {entries : List Entry} {o : Assoc Json} {e e' : Entry}

theorem external_not_extra (he : e ∈ entries) :
    e.key.external ∉ Assoc.keys (extraFields (entries.map (·.key)) o) :=
  external_not_extraFields (List.mem_map_of_mem he) o

theorem name_not_extra (h : Tells entries o) (he : e ∈ entries) (hg : e.given = false) :
    e.key.name ∉ Assoc.keys (extraFields (entries.map (·.key)) o) := by
  intro hk
  have hnone : e.key.used? o = none := by
    rw [h.given e he] at hg
    simpa using hg
  exact (Key.used?_eq_none.mp hnone).2 (mem_keys_extraFields.mp hk).1

theorem eq_of_external (h : Tells entries o) (he : e ∈ entries) (he' : e' ∈ entries)
    (hk : e.key.external = e'.key.external) : e = e' := by
  have hnodup : (entries.map fun e => e.key.external).Nodup := by
    rw [← Function.comp_def Key.external Entry.key, ← List.map_map]
    exact h.apart.distinct
  exact List.inj_on_of_nodup_map hnodup he he' hk

theorem eq_of_name (h : Tells entries o) (he : e ∈ entries) (he' : e' ∈ entries)
    (hk : e.key.name = e'.key.external) : e = e' :=
  h.eq_of_external he he' (congrArg Key.external
    (h.apart.apart e.key (List.mem_map_of_mem he) e'.key (List.mem_map_of_mem he') hk))

theorem mem_keys_writtenFields {k : String} {extra : Assoc Json} :
    k ∈ Assoc.keys (writtenFields entries extra) ↔
      (∃ e ∈ entries, e.given = true ∧ e.key.external = k) ∨ k ∈ Assoc.keys extra := by
  have hextra : Assoc.keys (Json.finitizeFields extra) = Assoc.keys extra := by
    rw [Json.finitizeFields_eq, Assoc.keys_mapValues]
  rw [writtenFields, Assoc.keys, List.map_append, List.mem_append, List.map_map]
  refine or_congr ?_ (by rw [← hextra]; rfl)
  simp only [List.mem_map, List.mem_filter, Function.comp_apply]
  constructor
  · rintro ⟨e, ⟨he, hg⟩, rfl⟩
    exact ⟨e, he, hg, rfl⟩
  · rintro ⟨e, he, hg, rfl⟩
    exact ⟨e, ⟨he, hg⟩, rfl⟩

theorem keys_writtenFields_nodup (h : Tells entries o) :
    (Assoc.keys (writtenFields entries (extraFields (entries.map (·.key)) o))).Nodup := by
  rw [writtenFields, Assoc.keys, List.map_append, List.map_map, List.nodup_append]
  refine ⟨?_, ?_, ?_⟩
  · have hnodup := h.apart.distinct
    rw [List.map_map] at hnodup
    exact hnodup.sublist (List.filter_sublist.map _)
  · have hextra := Assoc.keys_mapValues Json.finitize (extraFields (entries.map (·.key)) o)
    rw [Assoc.keys, ← Json.finitizeFields_eq] at hextra
    rw [hextra]
    exact h.distinct.sublist (List.filter_sublist.map _)
  · rintro k hk k' hk' rfl
    obtain ⟨e, he, rfl⟩ := List.mem_map.mp hk
    rw [Json.finitizeFields_eq] at hk'
    have hextra := Assoc.keys_mapValues Json.finitize (extraFields (entries.map (·.key)) o)
    rw [Assoc.keys] at hextra
    rw [hextra] at hk'
    exact external_not_extra (List.mem_filter.mp he).1 hk'

/-- What is written are the given fields and the extra ones, each once. -/
theorem assemble_eq (h : Tells entries o) :
    assemble .asWritten entries (extraFields (entries.map (·.key)) o) =
      .obj (writtenFields entries (extraFields (entries.map (·.key)) o)) := by
  have hputAll := Assoc.putAll_append h.keys_writtenFields_nodup
  exact congrArg Json.obj hputAll

/-- An entry's field in what is read again. -/
theorem respells (h : Tells entries o) (he : e ∈ entries) :
    Respells (rereadFields entries o) e := by
  have hvalue : e.given = true →
      Assoc.get? (writtenFields entries (extraFields (entries.map (·.key)) o)) e.key.external =
        some e.value := by
    intro hg
    refine Assoc.get?_of_mem h.keys_writtenFields_nodup (List.mem_append_left _ ?_)
    exact List.mem_map.mpr ⟨e, List.mem_filter.mpr ⟨he, hg⟩, rfl⟩
  unfold rereadFields
  constructor
  · split
    · rename_i hg
      apply Key.used?_of_external
      rw [Assoc.has_mapValues, Assoc.has, hvalue hg]
      rfl
    · rename_i hg
      rw [Key.used?_eq_none, Assoc.keys_mapValues, mem_keys_writtenFields, mem_keys_writtenFields]
      constructor
      · rintro (⟨e', he', hg', hk⟩ | hk)
        · exact hg (h.eq_of_external he' he hk ▸ hg')
        · exact external_not_extra he hk
      · rintro (⟨e', he', hg', hk⟩ | hk)
        · exact hg (h.eq_of_name he he' hk.symm ▸ hg')
        · exact h.name_not_extra he (by simpa using hg) hk
  · intro hg
    rw [Assoc.get?_mapValues, hvalue hg]
    rfl

/-- The extra fields of what is read again are those that were written. -/
theorem extraFields_respelled (h : Tells entries o) :
    extraFields (entries.map (·.key)) (rereadFields entries o) =
      Json.finitizeFields (extraFields (entries.map (·.key)) o) := by
  -- The used spellings are the external ones of the given fields.
  have hused : ∀ k, k ∈ (entries.map (·.key)).filterMap
      (fun key => key.used? (rereadFields entries o)) ↔
      ∃ e ∈ entries, e.given = true ∧ e.key.external = k := by
    intro k
    simp only [List.mem_filterMap, List.mem_map, exists_exists_and_eq_and]
    refine exists_congr fun e => and_congr_right fun he => ?_
    rw [(h.respells he).used]
    split <;> simp [*]
  rw [extraFields]
  generalize (entries.map (·.key)).filterMap _ = used at hused ⊢
  rw [rereadFields, writtenFields, Assoc.mapValues, List.map_append, List.filter_append,
    List.map_map]
  have hdeclared : ∀ p ∈ (entries.filter (·.given)).map
      ((fun p : String × Json => (p.1, p.2.reread)) ∘ fun e => (e.key.external, e.value)),
        ¬ (!used.contains p.1) = true := by
    intro p hp
    obtain ⟨e, he, rfl⟩ := List.mem_map.mp hp
    obtain ⟨he, hg⟩ := List.mem_filter.mp he
    simpa using (hused _).mpr ⟨e, he, hg, rfl⟩
  have hextra : ∀ p ∈ Json.finitizeFields (extraFields (entries.map (·.key)) o),
      (!used.contains p.1) = true := by
    intro p hp
    have hk : p.1 ∈ Assoc.keys (extraFields (entries.map (·.key)) o) := by
      rw [← Assoc.keys_mapValues Json.finitize, ← Json.finitizeFields_eq]
      exact List.mem_map_of_mem hp
    have hunused : p.1 ∉ used := by
      rw [hused]
      rintro ⟨e, he, -, hek⟩
      exact external_not_extra he (hek ▸ hk)
    simpa using hunused
  rw [List.filter_eq_nil_iff.mpr hdeclared, List.nil_append]
  rw [← Assoc.mapValues, Json.mapValues_reread_finitizeFields, List.filter_eq_self.mpr hextra]

end Tells

theorem keys_anyFields (extra : Assoc Json) :
    Assoc.keys (Mode.asWritten.anyFields extra) = Assoc.keys extra := by
  change Assoc.keys (Json.finitizeFields extra) = _
  rw [Json.finitizeFields_eq, Assoc.keys_mapValues]

/-- A given field stands in a dump under its external spelling, whatever else does. -/
theorem get?_assemble {entries : List Entry} {extra : Assoc Json}
    (distinct : (entries.map (·.key.external)).Nodup)
    (apart : ∀ e ∈ entries, e.key.external ∉ Assoc.keys extra) :
    ∃ fields, assemble .asWritten entries extra = .obj fields ∧
      ∀ e ∈ entries, e.given = true → Assoc.get? fields e.key.external = some e.value := by
  refine ⟨_, rfl, fun e he hgiven => ?_⟩
  have hextra : e.key.external ∉ Assoc.keys (Mode.asWritten.anyFields extra) := by
    rw [keys_anyFields]
    exact apart e he
  rw [Assoc.get?_putAll hextra]
  refine Assoc.get?_of_mem ?_ (List.mem_map.mpr ⟨e, List.mem_filter.mpr ⟨he, ?_⟩, rfl⟩)
  · rw [Assoc.keys, List.map_map]
    exact distinct.sublist (List.filter_sublist.map _)
  · rw [hgiven, Bool.or_true]

/-- A field that was left out does not stand in a dump. -/
theorem get?_assemble_left_out {entries : List Entry} {extra fields : Assoc Json}
    (distinct : (entries.map (·.key.external)).Nodup)
    (apart : ∀ e ∈ entries, e.key.external ∉ Assoc.keys extra)
    (dump : assemble .asWritten entries extra = .obj fields) {e : Entry} (he : e ∈ entries)
    (left : e.given = false) : Assoc.get? fields e.key.external = none := by
  cases dump
  have hextra : e.key.external ∉ Assoc.keys (Mode.asWritten.anyFields extra) := by
    rw [keys_anyFields]
    exact apart e he
  rw [Assoc.get?_putAll hextra, Assoc.get?_eq_none, Assoc.keys, List.map_map]
  intro hkept
  obtain ⟨e', he', heq⟩ := List.mem_map.mp hkept
  obtain ⟨he', hgiven⟩ := List.mem_filter.mp he'
  cases List.inj_on_of_nodup_map distinct he' he heq
  rw [left] at hgiven
  cases hgiven

def Entry.mapFloats (f : Binary64 → Json) (e : Entry) : Entry :=
  { e with value := e.value.mapFloats f }

/-- An entry as it is read again. -/
def Entry.reread (e : Entry) : Entry := { e with value := e.value.reread }

theorem mapFloats_assemble {f : Binary64 → Json} (mode : Mode) (entries : List Entry)
    {extra extra' : Assoc Json}
    (h : Assoc.mapValues (Json.mapFloats f) (mode.anyFields extra) = mode.anyFields extra') :
    (assemble mode entries extra).mapFloats f =
      assemble mode (entries.map (Entry.mapFloats f)) extra' := by
  have hkept : (entries.map (Entry.mapFloats f)).filter (fun e => mode.defaults || e.given) =
      (entries.filter fun e => mode.defaults || e.given).map (Entry.mapFloats f) := by
    rw [List.filter_map]
    rfl
  unfold assemble
  rw [Json.mapFloats_obj, Assoc.mapValues_putAll, h, hkept, Assoc.mapValues, List.map_map]
  dsimp only
  rw [List.map_map]
  rfl

theorem reread_assemble (entries : List Entry) (extra : Assoc Json) :
    (assemble .asWritten entries extra).reread =
      assemble .asWritten (entries.map Entry.reread) (Json.finitizeFields extra) := by
  refine mapFloats_assemble .asWritten entries ?_
  have hreread := Json.mapValues_reread_finitizeFields extra
  have hsettled := Json.finitizeFields_finitizeFields extra
  exact hreread.trans hsettled.symm

@[simp] theorem Entry.reread_always (key : Key) (v : Json) :
    (Entry.always key v).reread = .always key v.reread := rfl

end Storyboard

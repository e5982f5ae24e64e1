import Storyboard.Document.Validation
import Storyboard.Proofs.Document.Canonical
import Storyboard.Proofs.Schema.Reading

/-!
# Faithful readers

A reader is faithful to a way of dumping what it reads if the dump is legible, is read
again, and is the value first read where that was canonical. What is read again need not
be what was read first: numbers without a finite value become `null`. `settle` says what
it is.

Faithfulness is passed on from the fields of an object to the object, from the items of a
list to the list, and from the values of a table to the table. So it is shown for each
kind of object from its fields alone.
-/
namespace Storyboard

variable {α β : Type}

/-- A field with its value changed. -/
def Slot.map (f : α → β) : Slot α → Slot β
  | .absent => .absent
  | .null => .null
  | .value a => .value (f a)

@[simp] theorem Slot.map_absent (f : α → β) : (Slot.absent : Slot α).map f = .absent := rfl

@[simp] theorem Slot.map_null (f : α → β) : (Slot.null : Slot α).map f = .null := rfl

@[simp] theorem Slot.map_value (f : α → β) (a : α) : (Slot.value a).map f = .value (f a) := rfl

@[simp] theorem Slot.map_id (s : Slot α) : s.map id = s := by
  cases s <;> rfl

/-- A slot settles to what its value settles to. -/
theorem Entry.ofSlot_map {dump : α → Json} {settle : α → α} {key : Key} {s : Slot α}
    (h : ∀ a ∈ s.toOption, dump (settle a) = (dump a).reread) :
    Entry.ofSlot key dump (s.map settle) = (Entry.ofSlot key dump s).reread := by
  cases s with
  | value a => exact congrArg (Entry.mk key true) (h a rfl)
  | null => rfl
  | absent => rfl

theorem Entry.ofOption_map {dump : α → Json} {settle : α → α} {key : Key} {default : Json}
    {x : Option α} (hd : default.reread = default)
    (h : ∀ a ∈ x, dump (settle a) = (dump a).reread) :
    Entry.ofOption key dump default (x.map settle) =
      (Entry.ofOption key dump default x).reread := by
  cases x with
  | some a => exact congrArg (Entry.mk key true) (h a rfl)
  | none => exact congrArg (Entry.mk key false) hd.symm

/-- What is written for a value that was read is legible, is read again with a result, and
is the value again if that was canonical. -/
structure Restated (shape : Shape) (read : Json → Check α) (v written : Json) (again : α) :
    Prop where
  legible : written.Legible textBounds
  again : read written.reread = .ok again
  alike : v.canonical shape = true → v.allFinite = true → written.reread.Equivalent v

/-- What a reader reads is restated by a dump. -/
def Faithful (shape : Shape) (read : Json → Check α) (dump : α → Json) (settle : α → α) : Prop :=
  ∀ v x, v.Legible textBounds → read v = .ok x → Restated shape read v (dump x) (settle x)

/-- What is dumped of a value is read again as another one. -/
def ComesBack (read : Json → Check α) (dump : α → Json) (a again : α) : Prop :=
  read (dump a).reread = .ok again

/-- Nothing is dumped as `null`. -/
def Solid (dump : α → Json) : Prop := ∀ a, (dump a).reread ≠ .null

theorem solid_str {f : α → String} : Solid fun a => .str (f a) := by
  intro a h
  cases h

theorem solid_bool : Solid Json.bool := by
  intro b h
  cases h

theorem solid_arr {f : α → List Json} : Solid fun a => .arr (f a) := by
  intro a h
  cases h

theorem solid_obj {f : α → List (String × Json)} : Solid fun a => .obj (f a) := by
  intro a h
  cases h

theorem Restated.of_canonical {shape shape' : Shape} {read : Json → Check α} {v written : Json}
    {again : α} (h : Restated shape read v written again)
    (himp : v.canonical shape' = true → v.canonical shape = true) :
    Restated shape' read v written again :=
  ⟨h.legible, h.again, fun hc => h.alike (himp hc)⟩

/-- An entry tells a field of an object. -/
structure Told (o : Assoc Json) (shape : Shape) (e : Entry) : Prop where
  given : e.given = (e.key.used? o).isSome
  legible : e.given = true → e.value.Legible textBounds
  alike : ∀ u, Assoc.get? o e.key.external = some u → u.canonical shape = true →
    u.allFinite = true → e.value.reread.Equivalent u

/-- An entry tells a field, and a reader of the field reads it again. -/
structure Retold (o : Assoc Json) (shape : Shape) (e : Entry) (reader : Assoc Json → Check β)
    (again : β) : Prop extends Told o shape e where
  again : ∀ o', Respells o' e → reader o' = .ok again

section Fields

variable {o : Assoc Json} {key : Key} {shape : Shape} {read : Json → Check α} {dump : α → Json}
  {settle : α → α}

/-- A field of an object is the value under its external spelling, if that is there. -/
theorem eq_of_external {k : String} {u u' : Json} (hk : key.used? o = some k)
    (hu : Assoc.get? o k = some u) (hu' : Assoc.get? o key.external = some u') : u = u' := by
  have hext : key.used? o = some key.external :=
    Key.used?_of_external (by rw [Assoc.has, hu']; rfl)
  rw [hext] at hk
  cases hk
  rw [hu'] at hu
  cases hu
  rfl

theorem Respells.of_given {o' : Assoc Json} {e : Entry} (h : Respells o' e)
    (hg : e.given = true) :
    e.key.used? o' = some e.key.external ∧
      Assoc.get? o' e.key.external = some e.value.reread := by
  refine ⟨?_, h.value hg⟩
  rw [h.used, if_pos hg]

theorem required_again {a again : α} (ho : Respells o (.always key (dump a)))
    (h : ComesBack read dump a again) : Read.required o key read = .ok again := by
  obtain ⟨hused, hvalue⟩ := ho.of_given rfl
  exact Read.required_eq_ok.mpr ⟨_, _, hused, hvalue, h⟩

theorem slot_again (hsolid : Solid dump) {x : Slot α} (ho : Respells o (.ofSlot key dump x))
    (h : ∀ a ∈ x.toOption, ComesBack read dump a (settle a)) :
    Read.slot o key read = .ok (x.map settle) := by
  cases x with
  | absent => exact Read.slot_eq_ok.mpr (.inl ⟨ho.used, rfl⟩)
  | null =>
    obtain ⟨hused, hvalue⟩ := ho.of_given rfl
    exact Read.slot_eq_ok.mpr (.inr (.inl ⟨_, hused, hvalue, rfl⟩))
  | value a =>
    obtain ⟨hused, hvalue⟩ := ho.of_given rfl
    exact Read.slot_eq_ok.mpr (.inr (.inr ⟨_, _, _, hused, hvalue, hsolid a, h a rfl, rfl⟩))

theorem optional_again {default : Json} {x : Option α}
    (ho : Respells o (.ofOption key dump default x))
    (h : ∀ a ∈ x, ComesBack read dump a (settle a)) :
    Read.optional o key read = .ok (x.map settle) := by
  cases x with
  | none => exact Read.optional_eq_ok.mpr (.inl ⟨ho.used, rfl⟩)
  | some a =>
    obtain ⟨hused, hvalue⟩ := ho.of_given rfl
    exact Read.optional_eq_ok.mpr (.inr ⟨_, _, _, hused, hvalue, h a rfl, rfl⟩)

theorem not_external_of_unused {u : Json} (hk : key.used? o = none)
    (hu : Assoc.get? o key.external = some u) : False := by
  rw [Key.used?_of_external (by rw [Assoc.has, hu]; rfl)] at hk
  cases hk

theorem retold_required (hf : Faithful shape read dump settle)
    (ho : (Json.obj o).Legible textBounds) {x : α} (h : Read.required o key read = .ok x) :
    Retold o shape (.always key (dump x)) (Read.required · key read) (settle x) := by
  obtain ⟨k, u, hk, hu, hread⟩ := Read.required_eq_ok.mp h
  have hx := hf u x (ho.get? hu) hread
  refine ⟨⟨by rw [Entry.always, hk]; rfl, fun _ => hx.legible, ?_⟩, ?_⟩
  · intro u' hu' hc hfin
    obtain rfl := eq_of_external hk hu hu'
    exact hx.alike hc hfin
  · exact fun o' ho' => required_again ho' hx.again

theorem retold_optional (hf : Faithful shape read dump settle)
    (ho : (Json.obj o).Legible textBounds) {x : Option α} (default : Json)
    (h : Read.optional o key read = .ok x) :
    Retold o shape (.ofOption key dump default x) (Read.optional · key read) (x.map settle) := by
  rcases Read.optional_eq_ok.mp h with ⟨hk, rfl⟩ | ⟨k, u, a, hk, hu, hread, rfl⟩
  · refine ⟨⟨by rw [Entry.ofOption, hk]; rfl, Bool.noConfusion, ?_⟩, ?_⟩
    · exact fun u hu => (not_external_of_unused hk hu).elim
    · exact fun o' ho' => optional_again ho' fun _ h => nomatch h
  · have hx := hf u a (ho.get? hu) hread
    refine ⟨⟨by rw [Entry.ofOption, hk]; rfl, fun _ => hx.legible, ?_⟩, ?_⟩
    · intro u' hu' hc hfin
      obtain rfl := eq_of_external hk hu hu'
      exact hx.alike hc hfin
    · exact fun o' ho' => optional_again ho' fun _ h => by cases h; exact hx.again

theorem retold_slot (hf : Faithful shape read dump settle) (hsolid : Solid dump)
    (ho : (Json.obj o).Legible textBounds) {x : Slot α} (h : Read.slot o key read = .ok x) :
    Retold o shape (.ofSlot key dump x) (Read.slot · key read) (x.map settle) := by
  rcases Read.slot_eq_ok.mp h with ⟨hk, rfl⟩ | ⟨k, hk, hu, rfl⟩ | ⟨k, u, a, hk, hu, -, hread, rfl⟩
  · refine ⟨⟨by rw [Entry.ofSlot, hk]; rfl, Bool.noConfusion, ?_⟩, ?_⟩
    · exact fun u hu => (not_external_of_unused hk hu).elim
    · exact fun o' ho' => slot_again hsolid ho' fun _ h => nomatch h
  · refine ⟨⟨by rw [Entry.ofSlot, hk]; rfl, fun _ => .null, ?_⟩, ?_⟩
    · intro u' hu' _ _
      obtain rfl := eq_of_external hk hu hu'
      exact .refl _
    · exact fun o' ho' => slot_again hsolid ho' fun _ h => nomatch h
  · have hx := hf u a (ho.get? hu) hread
    refine ⟨⟨by rw [Entry.ofSlot, hk]; rfl, fun _ => hx.legible, ?_⟩, ?_⟩
    · intro u' hu' hc hfin
      obtain rfl := eq_of_external hk hu hu'
      exact hx.alike hc hfin
    · exact fun o' ho' => slot_again hsolid ho' fun _ h => by cases h; exact hx.again

end Fields

/-- Entries tell the fields of an object of a kind, one each. -/
def TellsPart (part : Part) (o : Assoc Json) (entries : List Entry) : Prop :=
  List.Forall₂ (fun e f => e.key = f.1 ∧ Told o f.2 e) entries part.fields

section Objects

variable {part : Part} {o : Assoc Json} {entries : List Entry}

theorem TellsPart.keys_eq (h : TellsPart part o entries) :
    entries.map (·.key) = part.keys := by
  rw [Part.keys]
  obtain ⟨hlen, hget⟩ := List.forall₂_iff_get.mp h
  refine List.ext_get (by simpa using hlen) fun i hi hi' => ?_
  simpa using (hget i (by simpa using hi) (by simpa using hi')).1

theorem TellsPart.exists_field (h : TellsPart part o entries) {e : Entry} (he : e ∈ entries) :
    ∃ f ∈ part.fields, e.key = f.1 ∧ Told o f.2 e :=
  exists_of_forall₂ h he

theorem TellsPart.tells (h : TellsPart part o entries) (ho : (Json.obj o).Legible textBounds) :
    Tells entries o := by
  refine ⟨?_, ?_, ?_⟩
  · rw [h.keys_eq]
    exact part.keysApart
  · cases ho with
    | obj _ hdistinct _ => exact hdistinct
  · intro e he
    obtain ⟨f, _, _, htold⟩ := h.exists_field he
    exact htold.given

theorem TellsPart.legible (h : TellsPart part o entries)
    (ho : (Json.obj o).Legible textBounds) :
    (assemble .asWritten entries (extraFields part.keys o)).Legible textBounds := by
  have ht := h.tells ho
  rw [← h.keys_eq, ht.assemble_eq]
  refine .obj _ ht.keys_writtenFields_nodup ?_
  intro p hp
  rcases List.mem_append.mp hp with hp | hp
  · obtain ⟨e, he, rfl⟩ := List.mem_map.mp hp
    obtain ⟨he, hg⟩ := List.mem_filter.mp he
    obtain ⟨f, _, _, htold⟩ := h.exists_field he
    exact htold.legible hg
  · rw [Json.finitizeFields_eq] at hp
    obtain ⟨q, hq, rfl⟩ := List.mem_map.mp hp
    cases ho with
    | obj _ _ hvalues => exact (hvalues q (List.mem_filter.mp hq).1).finitize

/-- A canonical object uses external spellings only. -/
theorem TellsPart.used_eq_external (h : TellsPart part o entries)
    (hc : (Json.obj o).canonical (.part part) = true) {e : Entry} (he : e ∈ entries) {k : String}
    (hk : e.key.used? o = some k) : k = e.key.external := by
  obtain ⟨f, hf, hef, -⟩ := h.exists_field he
  rw [Key.used?, hef] at hk
  split at hk
  · cases hk
    rw [hef]
  · split at hk
    · cases hk
      by_cases hne : f.1.external = f.1.name
      · rw [hef, hne]
      · exact absurd (Assoc.has_eq_true.mp ‹_›) (Json.name_unused hc hf hne)
    · cases hk

/-- A declared field stands in both objects with one value, or in neither. -/
theorem TellsPart.alike_declared (h : TellsPart part o entries)
    (ho : (Json.obj o).Legible textBounds) (hc : (Json.obj o).canonical (.part part) = true)
    (hfin : (Json.obj o).allFinite = true) {e : Entry} (he : e ∈ entries) :
    (Assoc.get? (rereadFields entries o) e.key.external = none ∧
        Assoc.get? o e.key.external = none) ∨
      ∃ a b, Assoc.get? (rereadFields entries o) e.key.external = some a ∧
        Assoc.get? o e.key.external = some b ∧ a.Equivalent b := by
  have hrespells := (h.tells ho).respells he
  obtain ⟨f, hf, hef, htold⟩ := h.exists_field he
  cases hu : e.key.used? o with
  | none =>
    have hg : ¬ e.given = true := by
      rw [htold.given, hu]
      exact Bool.false_ne_true
    have hused := hrespells.used
    rw [if_neg hg] at hused
    exact .inl ⟨Assoc.get?_eq_none.mpr (Key.used?_eq_none.mp hused).1,
      Assoc.get?_eq_none.mpr (Key.used?_eq_none.mp hu).1⟩
  | some k =>
    obtain ⟨u, hget⟩ := Read.get?_of_used? hu
    obtain rfl := h.used_eq_external hc he hu
    have hg : e.given = true := by
      rw [htold.given, hu]
      rfl
    refine .inr ⟨_, u, (hrespells.of_given hg).2, hget, htold.alike u hget ?_ ?_⟩
    · exact Json.canonical_field hc hf (hef ▸ hget)
    · exact (Json.allFinite_obj o).mp hfin _ (Assoc.mem_of_get? hget)

/-- An extra field of a canonical object stands in both objects. -/
theorem TellsPart.get?_extra (h : TellsPart part o entries)
    (hc : (Json.obj o).canonical (.part part) = true) (hfin : (Json.obj o).allFinite = true)
    {k : String} (hk : ∀ e ∈ entries, e.key.external ≠ k) :
    Assoc.get? (rereadFields entries o) k = Assoc.get? o k := by
  have hfinite : Json.finitizeFields (extraFields (entries.map (·.key)) o) =
      extraFields (entries.map (·.key)) o := by
    rw [Json.finitizeFields_eq]
    exact Assoc.mapValues_id fun p hp => Json.finitize_of_allFinite
      ((Json.allFinite_obj o).mp hfin p (List.mem_filter.mp hp).1)
  have hnone : Assoc.get? ((entries.filter (·.given)).map
      fun e => (e.key.external, e.value)) k = none := by
    rw [Assoc.get?_eq_none, Assoc.keys, List.map_map]
    intro hmem
    obtain ⟨e, he, rfl⟩ := List.mem_map.mp hmem
    exact hk e (List.mem_filter.mp he).1 rfl
  have hextra : Assoc.get? (extraFields (entries.map (·.key)) o) k = Assoc.get? o k := by
    refine Assoc.get?_filter_keep fun v => ?_
    simp only [Bool.not_eq_true', List.contains_eq_mem, decide_eq_false_iff_not,
      List.mem_filterMap, List.mem_map]
    rintro ⟨_, ⟨e, he, rfl⟩, hused⟩
    exact hk e he (h.used_eq_external hc he hused).symm
  rw [rereadFields, Assoc.get?_mapValues, writtenFields, Assoc.get?_append, hnone, Option.none_or,
    hfinite, hextra]
  cases hv : Assoc.get? o k with
  | none => rfl
  | some v =>
    exact congrArg some (Json.reread_of_allFinite
      ((Json.allFinite_obj o).mp hfin _ (Assoc.mem_of_get? hv)))

theorem TellsPart.alike (h : TellsPart part o entries) (ho : (Json.obj o).Legible textBounds)
    (hc : (Json.obj o).canonical (.part part) = true) (hfin : (Json.obj o).allFinite = true) :
    Json.Equivalent (.obj (rereadFields entries o)) (.obj o) := by
  refine .of_each_key fun k => ?_
  by_cases hk : ∃ e ∈ entries, e.key.external = k
  · obtain ⟨e, he, rfl⟩ := hk
    exact h.alike_declared ho hc hfin he
  · have hget := h.get?_extra hc hfin fun e he heq => hk ⟨e, he, heq⟩
    cases hv : Assoc.get? o k with
    | none => exact .inl ⟨hget.trans hv, rfl⟩
    | some v => exact .inr ⟨v, v, hget.trans hv, rfl, .refl v⟩

/-- An object is restated if its fields are told and its reader reads them again. -/
theorem restated_of_fields {read : Json → Check α} {again : α}
    (ho : (Json.obj o).Legible textBounds) (h : TellsPart part o entries)
    (hread : ∀ o', (∀ e ∈ entries, Respells o' e) →
      extraFields part.keys o' = Json.finitizeFields (extraFields part.keys o) →
        read (.obj o') = .ok again) :
    Restated (.part part) read (.obj o)
      (assemble .asWritten entries (extraFields part.keys o)) again := by
  have ht := h.tells ho
  have hwritten : (assemble .asWritten entries (extraFields part.keys o)).reread =
      .obj (rereadFields entries o) := by
    rw [← h.keys_eq, ht.assemble_eq, Json.reread_obj]
    rfl
  refine ⟨h.legible ho, ?_, ?_⟩
  · rw [hwritten]
    refine hread _ (fun e he => ht.respells he) ?_
    rw [← h.keys_eq]
    exact ht.extraFields_respelled
  · rw [hwritten]
    exact h.alike ho

end Objects

end Storyboard

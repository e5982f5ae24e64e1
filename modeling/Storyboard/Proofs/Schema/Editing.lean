import Storyboard.Proofs.Schema.Reading
import Storyboard.Proofs.Schema.Record

/-!
# Objects with an edited field

A table in a field is edited where it stands: under the spelling that the object uses, or under
the external one where it has none. The field is then read from the edited table, and every field
that shares no spelling with it is read as before.
-/
namespace Storyboard

namespace Key

/-- The spelling of a field in an object that has it or is given it. -/
def spelling (key : Key) (o : Assoc Json) : String := (key.used? o).getD key.external

/-- The table in a field, empty where there is none. -/
def table (key : Key) (o : Assoc Json) : Assoc Json :=
  (((key.used? o).bind (Assoc.get? o)).bind Json.fields?).getD []

/-- An object with the table in a field edited. -/
def edit (key : Key) (o : Assoc Json) (f : Assoc Json → Assoc Json) : Assoc Json :=
  Assoc.put o (key.spelling o) (.obj (f (key.table o)))

/-- Two fields share no spelling. -/
def Apart (key other : Key) : Prop :=
  ∀ k ∈ [key.external, key.name], k ∉ [other.external, other.name]

instance (key other : Key) : Decidable (key.Apart other) :=
  inferInstanceAs (Decidable (∀ k ∈ [key.external, key.name], k ∉ [other.external, other.name]))

variable {key other : Key} {o : Assoc Json} {f : Assoc Json → Assoc Json} {k : String}

theorem mem_of_used? (h : key.used? o = some k) :
    k ∈ [key.external, key.name] ∧ Assoc.has o k = true := by
  rw [used?] at h
  split at h
  · cases h
    exact ⟨List.mem_cons_self, ‹_›⟩
  · split at h
    · cases h
      exact ⟨List.mem_cons_of_mem _ List.mem_cons_self, ‹_›⟩
    · cases h

theorem spelling_mem : key.spelling o ∈ [key.external, key.name] := by
  rw [spelling]
  cases hused : key.used? o with
  | none => exact List.mem_cons_self
  | some k => exact (mem_of_used? hused).1

theorem has_edit : Assoc.has (key.edit o f) k = (key.spelling o == k || Assoc.has o k) := by
  rw [edit, Assoc.has, Assoc.get?_put, Assoc.has]
  by_cases hk : key.spelling o = k <;> simp [hk]

theorem used?_edit : key.used? (key.edit o f) = some (key.spelling o) := by
  rw [used?, has_edit, has_edit, spelling, used?]
  by_cases hexternal : Assoc.has o key.external = true
  · simp [hexternal]
  · by_cases hname : Assoc.has o key.name = true
    · by_cases heq : key.name = key.external <;> simp [hexternal, hname, heq]
    · simp [hexternal, hname]

theorem get?_edit : Assoc.get? (key.edit o f) (key.spelling o) = some (.obj (f (key.table o))) := by
  rw [edit, Assoc.get?_put, if_pos rfl]

theorem spelling_ne (h : other.Apart key) (hk : k ∈ [other.external, other.name]) :
    key.spelling o ≠ k := by
  rintro rfl
  exact h _ hk spelling_mem

theorem used?_edit_of_apart (h : other.Apart key) : other.used? (key.edit o f) = other.used? o := by
  have hexternal : Assoc.has (key.edit o f) other.external = Assoc.has o other.external := by
    rw [has_edit, beq_false_of_ne (spelling_ne h List.mem_cons_self), Bool.false_or]
  have hname : Assoc.has (key.edit o f) other.name = Assoc.has o other.name := by
    rw [has_edit, beq_false_of_ne (spelling_ne h (List.mem_cons_of_mem _ List.mem_cons_self)),
      Bool.false_or]
  rw [used?, hexternal, hname, used?]

theorem get?_edit_of_apart (h : other.Apart key) (hk : other.used? o = some k) :
    Assoc.get? (key.edit o f) k = Assoc.get? o k := by
  rw [edit, Assoc.get?_put, if_neg (spelling_ne h (mem_of_used? hk).1)]

end Key

namespace Read

variable {α : Type} {key other : Key} {o : Assoc Json} {f : Assoc Json → Assoc Json}
  {read : Json → Check α}

theorem required_edit_of_apart (h : other.Apart key) :
    required (key.edit o f) other read = required o other read := by
  rw [required, Key.used?_edit_of_apart h, required]
  cases hused : other.used? o with
  | none => rfl
  | some k =>
    dsimp only
    rw [Key.get?_edit_of_apart h hused]

theorem slot_edit_of_apart (h : other.Apart key) :
    slot (key.edit o f) other read = slot o other read := by
  rw [slot, Key.used?_edit_of_apart h, slot]
  cases hused : other.used? o with
  | none => rfl
  | some k =>
    dsimp only
    rw [Key.get?_edit_of_apart h hused]

theorem required_edit {x : α} (h : read (.obj (f (key.table o))) = .ok x) :
    required (key.edit o f) key read = .ok x :=
  required_eq_ok.mpr ⟨_, _, Key.used?_edit, Key.get?_edit, h⟩

theorem slot_edit {x : α} (h : read (.obj (f (key.table o))) = .ok x) :
    slot (key.edit o f) key read = .ok (.value x) :=
  slot_eq_ok.mpr (.inr (.inr ⟨_, _, x, Key.used?_edit, Key.get?_edit, nofun, h, rfl⟩))

/-- The object in a required field is the table in that field. -/
theorem read_table_of_required {x : α} (objects : ∀ v, read v = .ok x → ∃ fields, v = .obj fields)
    (h : required o key read = .ok x) : read (.obj (key.table o)) = .ok x := by
  obtain ⟨k, u, hused, hu, hread⟩ := required_eq_ok.mp h
  obtain ⟨fields, rfl⟩ := objects u hread
  have htable : key.table o = fields := by
    rw [Key.table, hused, Option.bind_some, hu]
    rfl
  rw [htable]
  exact hread

/-- The values in a table that may be left out, none where it is. -/
theorem read_table_of_slot {x : Slot (Assoc α)} (h : slot o key (table read) = .ok x) :
    table read (.obj (key.table o)) = .ok (x.toOption.getD []) := by
  rcases slot_eq_ok.mp h with ⟨hused, rfl⟩ | ⟨k, hused, hu, rfl⟩ |
    ⟨k, u, xs, hused, hu, -, hread, rfl⟩
  · have htable : key.table o = [] := by rw [Key.table, hused]; rfl
    rw [htable]
    rfl
  · have htable : key.table o = [] := by rw [Key.table, hused, Option.bind_some, hu]; rfl
    rw [htable]
    rfl
  · obtain ⟨fields, rfl, -⟩ := table_eq_ok.mp hread
    have htable : key.table o = fields := by rw [Key.table, hused, Option.bind_some, hu]; rfl
    rw [htable]
    exact hread

/-- A table with one more value is read with that value behind the others. -/
theorem table_put {fields : Assoc Json} {xs : Assoc α} {name : String} {u : Json} {x : α}
    (h : table read (.obj fields) = .ok xs) (new : name ∉ Assoc.keys xs) (hu : read u = .ok x) :
    table read (.obj (Assoc.put fields name u)) = .ok (xs ++ [(name, x)]) := by
  obtain ⟨_, heq, hall⟩ := table_eq_ok.mp h
  cases heq
  have hkeys : name ∉ Assoc.keys fields := by
    intro hmem
    obtain ⟨p, hp, rfl⟩ := List.mem_map.mp hmem
    obtain ⟨q, hq, hname, -⟩ := exists_of_forall₂ hall hp
    exact new (hname ▸ List.mem_map_of_mem hq)
  rw [Assoc.put_of_not_mem hkeys]
  exact table_eq_ok.mpr ⟨_, rfl, List.rel_append hall (.cons ⟨rfl, hu⟩ .nil)⟩

end Read

/-- Where no other field shares a spelling with it, an edited field leaves the extra ones as they
are. -/
theorem extraFields_edit {keys : List Key} {key : Key} {o : Assoc Json}
    {f : Assoc Json → Assoc Json} (hkey : key ∈ keys)
    (apart : ∀ other ∈ keys, other ≠ key → other.Apart key) :
    extraFields keys (key.edit o f) = extraFields keys o := by
  -- The spellings that are used, and the one under which the field is written.
  have hused : ∀ k, k ∈ keys.filterMap (fun other => other.used? (key.edit o f)) ↔
      k = key.spelling o ∨ k ∈ keys.filterMap fun other => other.used? o := by
    intro k
    simp only [List.mem_filterMap]
    constructor
    · rintro ⟨other, hother, hk⟩
      by_cases heq : other = key
      · subst heq
        rw [Key.used?_edit] at hk
        exact .inl (Option.some.inj hk).symm
      · rw [Key.used?_edit_of_apart (apart other hother heq)] at hk
        exact .inr ⟨other, hother, hk⟩
    · rintro (rfl | ⟨other, hother, hk⟩)
      · exact ⟨key, hkey, Key.used?_edit⟩
      · by_cases heq : other = key
        · subst heq
          refine ⟨other, hother, ?_⟩
          rw [Key.used?_edit, Key.spelling, hk, Option.getD_some]
        · exact ⟨other, hother, by rwa [Key.used?_edit_of_apart (apart other hother heq)]⟩
  -- The one under which it is written was used already, or it is new.
  have hpresent : ∀ p ∈ o, p.1 = key.spelling o →
      p.1 ∈ keys.filterMap fun other => other.used? o := by
    intro p hp heq
    rw [Key.spelling] at heq
    cases hk : key.used? o with
    | none =>
      rw [hk, Option.getD_none] at heq
      exact absurd (heq ▸ List.mem_map_of_mem hp) (Key.used?_eq_none.mp hk).1
    | some k =>
      rw [hk, Option.getD_some] at heq
      exact List.mem_filterMap.mpr ⟨key, hkey, heq ▸ hk⟩
  rw [extraFields, extraFields, Key.edit, Assoc.filter_put]
  · refine List.filter_congr fun p hp => ?_
    rw [List.contains_eq_mem, List.contains_eq_mem]
    refine congrArg not (decide_eq_decide.mpr ((hused p.1).trans ?_))
    exact ⟨fun h => h.elim (hpresent p hp) id, .inr⟩
  · intro v
    rw [Bool.not_eq_false', List.contains_iff_mem]
    exact (hused _).mpr (.inl rfl)

end Storyboard

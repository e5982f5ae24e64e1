import Mathlib.Data.List.Forall2
import Storyboard.Proofs.Assoc
import Storyboard.Schema.Field

/-!
# What a reader read

A reader that succeeds succeeded with every one of its parts. These lemmas take a success
apart: into the object of a record, the value of a field, the items of a list.
-/
namespace Storyboard

variable {α β : Type}

/-- What stands in the first of two related lists has a counterpart in the second. -/
theorem exists_of_forall₂ {r : α → β → Prop} {as : List α} {bs : List β}
    (h : List.Forall₂ r as bs) {a : α} (ha : a ∈ as) : ∃ b ∈ bs, r a b := by
  induction h with
  | nil => cases ha
  | cons hab _ ih =>
    rcases List.mem_cons.mp ha with rfl | ha
    · exact ⟨_, List.mem_cons_self, hab⟩
    · obtain ⟨b, hb, hab⟩ := ih ha
      exact ⟨b, List.mem_cons_of_mem _ hb, hab⟩

theorem exists_of_forall₂_right {r : α → β → Prop} {as : List α} {bs : List β}
    (h : List.Forall₂ r as bs) {b : β} (hb : b ∈ bs) : ∃ a ∈ as, r a b :=
  exists_of_forall₂ (List.Forall₂.flip h) hb

namespace Check

@[simp] theorem map_eq_ok {f : α → β} {c : Check α} {b : β} :
    f <$> c = .ok b ↔ ∃ a, c = .ok a ∧ f a = b := by
  constructor
  · intro h
    cases c with
    | ok a => exact ⟨a, rfl, Check.ok.inj h⟩
    | bad issues => cases h
  · rintro ⟨a, rfl, rfl⟩
    rfl

@[simp] theorem seq_eq_ok {f : Check (α → β)} {c : Check α} {b : β} :
    f <*> c = .ok b ↔ ∃ g, f = .ok g ∧ ∃ a, c = .ok a ∧ g a = b := by
  constructor
  · intro h
    cases f with
    | ok g =>
      cases c with
      | ok a => exact ⟨g, rfl, a, rfl, Check.ok.inj h⟩
      | bad issues => cases h
    | bad issues => cases c <;> cases h
  · rintro ⟨g, rfl, a, rfl, rfl⟩
    rfl

@[simp] theorem under_eq_ok {key : String} {c : Check α} {a : α} :
    under key c = .ok a ↔ c = .ok a := by
  cases c with
  | ok b => rfl
  | bad issues => constructor <;> intro h <;> cases h

theorem functor_map_eq (f : α → β) (c : Check α) : c.map f = f <$> c := rfl

end Check

namespace Read

theorem record_eq_ok {kind : String} {fields : Assoc Json → Check α} {v : Json} {x : α}
    (h : record kind fields v = .ok x) : ∃ o, v = .obj o ∧ fields o = .ok x := by
  cases v with
  | obj o => exact ⟨o, rfl, h⟩
  | _ => cases h

theorem record_obj {kind : String} {fields : Assoc Json → Check α} {o : Assoc Json} :
    record kind fields (.obj o) = fields o := rfl

/-- A spelling that is used is there. -/
theorem get?_of_used? {o : Assoc Json} {key : Key} {k : String} (h : key.used? o = some k) :
    ∃ u, Assoc.get? o k = some u := by
  rw [Key.used?] at h
  split at h
  · cases h
    exact Option.isSome_iff_exists.mp ‹_›
  · split at h
    · cases h
      exact Option.isSome_iff_exists.mp ‹_›
    · cases h

theorem required_eq_ok {o : Assoc Json} {key : Key} {read : Json → Check α} {x : α} :
    required o key read = .ok x ↔
      ∃ k u, key.used? o = some k ∧ Assoc.get? o k = some u ∧ read u = .ok x := by
  rw [required]
  cases hk : key.used? o with
  | none => simp [Check.under, Check.fail]
  | some k =>
    obtain ⟨u, hu⟩ := get?_of_used? hk
    dsimp only
    rw [hu, Option.getD_some, Check.under_eq_ok]
    simp [hu]

theorem optional_eq_ok {o : Assoc Json} {key : Key} {read : Json → Check α} {x : Option α} :
    optional o key read = .ok x ↔ (key.used? o = none ∧ x = none) ∨
      ∃ k u a, key.used? o = some k ∧ Assoc.get? o k = some u ∧ read u = .ok a ∧ x = some a := by
  rw [optional]
  cases hk : key.used? o with
  | none => simp [eq_comm]
  | some k =>
    obtain ⟨u, hu⟩ := get?_of_used? hk
    dsimp only
    rw [hu, Option.getD_some, Check.under_eq_ok, Check.functor_map_eq, Check.map_eq_ok]
    simp [hu, eq_comm]

theorem slot_eq_ok {o : Assoc Json} {key : Key} {read : Json → Check α} {x : Slot α} :
    slot o key read = .ok x ↔ (key.used? o = none ∧ x = .absent) ∨
      (∃ k, key.used? o = some k ∧ Assoc.get? o k = some .null ∧ x = .null) ∨
      ∃ k u a, key.used? o = some k ∧ Assoc.get? o k = some u ∧ u ≠ .null ∧ read u = .ok a ∧
        x = .value a := by
  rw [slot]
  cases hk : key.used? o with
  | none => simp [eq_comm]
  | some k =>
    obtain ⟨u, hu⟩ := get?_of_used? hk
    dsimp only
    rw [hu, Option.getD_some]
    cases u with
    | null => simp [hu, eq_comm]
    | _ =>
      dsimp only
      rw [Check.under_eq_ok, Check.functor_map_eq, Check.map_eq_ok]
      simp [hu, eq_comm]

/-- The value of a field was read. -/
theorem of_slot_ok {o : Assoc Json} {key : Key} {read : Json → Check α} {x : Slot α}
    (h : slot o key read = .ok x) : ∀ a ∈ x.toOption, ∃ u, read u = .ok a := by
  rcases slot_eq_ok.mp h with ⟨-, rfl⟩ | ⟨-, -, -, rfl⟩ | ⟨-, u, a, -, -, -, hread, rfl⟩
  · nofun
  · nofun
  · rintro _ ⟨⟩
    exact ⟨u, hread⟩

theorem items_eq_ok {read : Json → Check α} {index : Nat} {vs : List Json} {xs : List α} :
    items read index vs = .ok xs ↔ List.Forall₂ (fun v x => read v = .ok x) vs xs := by
  induction vs generalizing index xs with
  | nil => simp [items, eq_comm]
  | cons v rest ih =>
    simp only [items, Check.seq_eq_ok, Check.map_eq_ok, Check.under_eq_ok, ih,
      List.forall₂_cons_left_iff]
    constructor
    · rintro ⟨_, ⟨x, hx, rfl⟩, more, hmore, rfl⟩
      exact ⟨x, more, hx, hmore, rfl⟩
    · rintro ⟨x, more, hx, hmore, rfl⟩
      exact ⟨_, ⟨x, hx, rfl⟩, more, hmore, rfl⟩

theorem entries_eq_ok {read : Json → Check α} {fields : List (String × Json)} {xs : Assoc α} :
    entries read fields = .ok xs ↔
      List.Forall₂ (fun p q => p.1 = q.1 ∧ read p.2 = .ok q.2) fields xs := by
  induction fields generalizing xs with
  | nil => simp [entries, eq_comm]
  | cons p rest ih =>
    simp only [entries, Check.seq_eq_ok, Check.map_eq_ok, Check.under_eq_ok, ih,
      List.forall₂_cons_left_iff]
    constructor
    · rintro ⟨_, ⟨_, ⟨x, hx, rfl⟩, rfl⟩, more, hmore, rfl⟩
      exact ⟨_, more, ⟨rfl, hx⟩, hmore, rfl⟩
    · rintro ⟨⟨k, x⟩, more, ⟨rfl, hx⟩, hmore, rfl⟩
      exact ⟨_, ⟨_, ⟨x, hx, rfl⟩, rfl⟩, more, hmore, rfl⟩

theorem list_eq_ok {read : Json → Check α} {v : Json} {xs : List α} :
    list read v = .ok xs ↔
      ∃ vs, v = .arr vs ∧ List.Forall₂ (fun v x => read v = .ok x) vs xs := by
  cases v with
  | arr vs => simp [list, items_eq_ok]
  | _ => simp [list, Check.fail]

/-- The items of a list in a field were read. -/
theorem of_listSlot_ok {o : Assoc Json} {key : Key} {read : Json → Check α} {x : Slot (List α)}
    (h : slot o key (list read) = .ok x) : ∀ a ∈ x.toOption.getD [], ∃ u, read u = .ok a := by
  intro a ha
  cases x with
  | value items =>
    obtain ⟨u, hu⟩ := of_slot_ok h items rfl
    obtain ⟨vs, -, hall⟩ := list_eq_ok.mp hu
    obtain ⟨v, -, hv⟩ := exists_of_forall₂_right hall ha
    exact ⟨v, hv⟩
  | null => cases ha
  | absent => cases ha

theorem table_eq_ok {read : Json → Check α} {v : Json} {xs : Assoc α} :
    table read v = .ok xs ↔
      ∃ fields, v = .obj fields ∧
        List.Forall₂ (fun p q => p.1 = q.1 ∧ read p.2 = .ok q.2) fields xs := by
  cases v with
  | obj fields => simp [table, entries_eq_ok]
  | _ => simp [table, Check.fail]

end Read

end Storyboard

import Storyboard.Assoc

/-!
# Laws of ordered tables

What stands in a table after a write, as pairs and as keys. A write under a new key
appends, so a table is rebuilt by writing its pairs one after the other as long as no
key repeats.
-/
namespace Storyboard.Assoc

variable {α : Type}

theorem mem_of_get? {table : Assoc α} {key : String} {value : α}
    (h : get? table key = some value) : (key, value) ∈ table := by
  induction table with
  | nil => simp at h
  | cons p rest ih =>
    obtain ⟨k, v⟩ := p
    by_cases hk : k = key
    · subst hk
      simp only [get?, beq_self_eq_true, if_true, Option.some.injEq] at h
      subst h
      exact List.mem_cons_self
    · simp only [get?, beq_iff_eq, hk, if_false] at h
      exact List.mem_cons_of_mem _ (ih h)

/-- A write leaves other pairs where they are and adds its own. -/
theorem mem_put {table : Assoc α} {key : String} {value : α} {p : String × α}
    (h : p ∈ put table key value) : p ∈ table ∨ p = (key, value) := by
  induction table with
  | nil =>
    simp only [put, List.mem_singleton] at h
    exact Or.inr h
  | cons q rest ih =>
    obtain ⟨k, v⟩ := q
    by_cases hk : k = key
    · subst hk
      simp only [put, beq_self_eq_true, if_true, List.mem_cons] at h
      rcases h with h | h
      · exact Or.inr h
      · exact Or.inl (List.mem_cons_of_mem _ h)
    · simp only [put, beq_iff_eq, hk, if_false, List.mem_cons] at h
      rcases h with h | h
      · exact Or.inl (h ▸ List.mem_cons_self)
      · rcases ih h with h | h
        · exact Or.inl (List.mem_cons_of_mem _ h)
        · exact Or.inr h

theorem mem_put_self (table : Assoc α) (key : String) (value : α) :
    (key, value) ∈ put table key value := by
  induction table with
  | nil => exact List.mem_cons_self
  | cons q rest ih =>
    obtain ⟨k, v⟩ := q
    by_cases hk : k = key
    · simp [put, hk]
    · simp only [put, beq_iff_eq, hk, if_false]
      exact List.mem_cons_of_mem _ ih

/-- The one pair that a write drops is the one that a look-up finds. -/
theorem mem_put_of_mem {table : Assoc α} {key : String} {value : α} {p : String × α}
    (h : p ∈ table) : p ∈ put table key value ∨ p.1 = key ∧ get? table key = some p.2 := by
  induction table with
  | nil => cases h
  | cons q rest ih =>
    obtain ⟨k, v⟩ := q
    by_cases hk : k = key
    · subst hk
      rcases List.mem_cons.mp h with rfl | hrest
      · exact .inr ⟨rfl, by simp [get?]⟩
      · exact .inl (by simp [put, hrest])
    · simp only [put, get?, beq_iff_eq, hk, if_false]
      rcases List.mem_cons.mp h with rfl | hrest
      · exact .inl List.mem_cons_self
      · exact (ih hrest).imp_left (List.mem_cons_of_mem _)

theorem mem_putAll {table : Assoc α} {pairs : List (String × α)} {p : String × α}
    (h : p ∈ putAll table pairs) : p ∈ table ∨ p ∈ pairs := by
  induction pairs generalizing table with
  | nil => exact Or.inl h
  | cons q rest ih =>
    rcases ih h with h | h
    · rcases mem_put h with h | rfl
      · exact Or.inl h
      · exact Or.inr List.mem_cons_self
    · exact Or.inr (List.mem_cons_of_mem _ h)

theorem get?_eq_none {table : Assoc α} {key : String} :
    get? table key = none ↔ key ∉ keys table := by
  induction table with
  | nil => simp [keys]
  | cons p rest ih =>
    obtain ⟨k, v⟩ := p
    by_cases hk : k = key
    · subst hk
      simp [get?, keys]
    · simp only [keys] at ih
      simp [get?, keys, hk, ih, Ne.symm hk]

theorem has_eq_true {table : Assoc α} {key : String} :
    has table key = true ↔ key ∈ keys table := by
  rw [has, Option.isSome_iff_ne_none, ne_eq, get?_eq_none, Decidable.not_not]

/-- A write under a new key brings that key, behind the others. -/
theorem keys_put (table : Assoc α) (key : String) (value : α) :
    keys (put table key value) = if key ∈ keys table then keys table else keys table ++ [key] := by
  induction table with
  | nil => rfl
  | cons p rest ih =>
    obtain ⟨k, v⟩ := p
    by_cases hk : k = key
    · subst hk
      simp [put, keys]
    · simp only [keys] at ih
      simp only [put, keys, beq_iff_eq, hk, if_false, List.map_cons, List.mem_cons, Ne.symm hk,
        false_or, ih]
      by_cases hmem : key ∈ rest.map (·.1) <;> simp [hmem]

theorem get?_append (table more : Assoc α) (key : String) :
    get? (table ++ more) key = (get? table key).or (get? more key) := by
  induction table with
  | nil => rfl
  | cons p rest ih =>
    obtain ⟨k, v⟩ := p
    by_cases hk : k = key
    · simp [get?, hk]
    · simpa [get?, hk] using ih

theorem has_append (table more : Assoc α) (key : String) :
    has (table ++ more) key = (has table key || has more key) := by
  rw [has, get?_append, Option.isSome_or, has, has]

/-- Where no key repeats, a pair is found by its key. -/
theorem get?_of_mem {table : Assoc α} (h : (keys table).Nodup) {key : String} {value : α}
    (hm : (key, value) ∈ table) : get? table key = some value := by
  induction table with
  | nil => simp at hm
  | cons p rest ih =>
    obtain ⟨k, v⟩ := p
    obtain ⟨hk, hrest⟩ := List.nodup_cons.mp h
    rcases List.mem_cons.mp hm with hp | hp
    · cases hp
      simp [get?]
    · have hne : k ≠ key := by
        rintro rfl
        exact hk (List.mem_map.mpr ⟨_, hp, rfl⟩)
      simpa [get?, hne] using ih hrest hp

/-- A pair that no filter drops is still found. -/
theorem get?_filter_keep {table : Assoc α} {keep : String × α → Bool} {key : String}
    (h : ∀ v, keep (key, v) = true) : get? (table.filter keep) key = get? table key := by
  induction table with
  | nil => rfl
  | cons p rest ih =>
    obtain ⟨k, v⟩ := p
    by_cases hk : k = key
    · subst hk
      rw [List.filter_cons_of_pos (h v)]
      simp [get?]
    · rw [List.filter_cons]
      split <;> simpa [get?, hk] using ih

/-- Writes under other keys do not change a look-up. -/
theorem get?_putAll {table : Assoc α} {pairs : List (String × α)} {key : String}
    (h : key ∉ keys pairs) : get? (putAll table pairs) key = get? table key := by
  induction pairs generalizing table with
  | nil => rfl
  | cons p rest ih =>
    obtain ⟨hp, hrest⟩ : key ≠ p.1 ∧ key ∉ keys rest := by simpa [keys] using h
    rw [putAll, List.foldl_cons]
    exact (ih hrest).trans (by rw [get?_put, if_neg (Ne.symm hp)])

/-- A table of values that a function gives has them under their keys. -/
theorem get?_putAll_map (value : String → α) (table : Assoc α) (ids : List String) (key : String) :
    get? (putAll table (ids.map fun id => (id, value id))) key =
      if key ∈ ids then some (value key) else get? table key := by
  induction ids generalizing table with
  | nil => rfl
  | cons id rest ih =>
    rw [List.map_cons, putAll, List.foldl_cons]
    refine (ih _).trans ?_
    rw [get?_put]
    by_cases hrest : key ∈ rest
    · rw [if_pos hrest, if_pos (List.mem_cons_of_mem _ hrest)]
    · by_cases hid : id = key
      · rw [if_neg hrest, if_pos hid, if_pos (hid ▸ List.mem_cons_self), hid]
      · rw [if_neg hrest, if_neg hid, if_neg fun hmem => ?_]
        rcases List.mem_cons.mp hmem with heq | hmem
        · exact hid heq.symm
        · exact hrest hmem

/-- What is written last counts, and behind all of it what was there before. -/
theorem get?_putAll_eq_or (table : Assoc α) (pairs : List (String × α)) (key : String) :
    get? (putAll table pairs) key = (get? (ofPairs pairs) key).or (get? table key) := by
  induction pairs generalizing table with
  | nil => rfl
  | cons p rest ih =>
    have hlast : get? (ofPairs (p :: rest)) key =
        (get? (ofPairs rest) key).or (if p.1 = key then some p.2 else none) := by
      rw [ofPairs, putAll, List.foldl_cons]
      refine (ih _).trans ?_
      rw [get?_put, get?_nil]
    rw [putAll, List.foldl_cons]
    refine (ih _).trans ?_
    rw [hlast, get?_put, Option.or_assoc]
    split <;> rfl

/-- A pair that a filter drops may as well not have been written. -/
theorem filter_put {table : Assoc α} {key : String} {value : α} {keep : String × α → Bool}
    (h : ∀ v, keep (key, v) = false) : (put table key value).filter keep = table.filter keep := by
  induction table with
  | nil => simp [put, h]
  | cons p rest ih =>
    obtain ⟨k, v⟩ := p
    by_cases hk : k = key
    · subst hk
      simp [put, h]
    · simp [put, hk, List.filter_cons, ih]

/-- A pair that is found stands behind pairs of other keys. -/
theorem exists_append_of_get? {table : Assoc α} {key : String} {value : α}
    (h : get? table key = some value) :
    ∃ front rest, table = front ++ (key, value) :: rest ∧ key ∉ keys front := by
  induction table with
  | nil => cases h
  | cons p rest ih =>
    obtain ⟨k, v⟩ := p
    by_cases hk : k = key
    · subst hk
      simp only [get?, beq_self_eq_true, if_true, Option.some.injEq] at h
      exact ⟨[], rest, by rw [h, List.nil_append], List.not_mem_nil⟩
    · simp only [get?, beq_iff_eq, hk, if_false] at h
      obtain ⟨front, behind, rfl, hfront⟩ := ih h
      refine ⟨(k, v) :: front, behind, rfl, ?_⟩
      simpa [keys, Ne.symm hk] using hfront

/-- A write replaces the first pair of its key where it stands. -/
theorem put_append {front : Assoc α} {key : String} (h : key ∉ keys front) (value new : α)
    (rest : Assoc α) :
    put (front ++ (key, value) :: rest) key new = front ++ (key, new) :: rest := by
  induction front with
  | nil => simp [put]
  | cons p front ih =>
    obtain ⟨hp, hfront⟩ : key ≠ p.1 ∧ key ∉ keys front := by simpa [keys] using h
    simp only [List.cons_append, put, beq_iff_eq, Ne.symm hp, if_false, ih hfront]

/-- Writing what is found there already changes nothing. -/
theorem put_of_get? {table : Assoc α} {key : String} {value : α}
    (h : get? table key = some value) : put table key value = table := by
  obtain ⟨front, rest, rfl, hfront⟩ := exists_append_of_get? h
  exact put_append hfront value value rest

/-- Of two writes under one key the last counts. -/
theorem put_put {table : Assoc α} {key : String} (h : key ∈ keys table) (first last : α) :
    put (put table key first) key last = put table key last := by
  obtain ⟨value, hvalue⟩ := Option.isSome_iff_exists.mp (has_eq_true.mpr h)
  obtain ⟨front, rest, rfl, hfront⟩ := exists_append_of_get? hvalue
  rw [put_append hfront, put_append hfront, put_append hfront]

theorem put_of_not_mem {table : Assoc α} {key : String} (h : key ∉ keys table) (value : α) :
    put table key value = table ++ [(key, value)] := by
  induction table with
  | nil => rfl
  | cons p rest ih =>
    obtain ⟨k, v⟩ := p
    obtain ⟨hk, hrest⟩ : key ≠ k ∧ key ∉ keys rest := by simpa [keys] using h
    simp [put, Ne.symm hk, ih hrest]

theorem putAll_append {table : Assoc α} {pairs : List (String × α)}
    (h : (keys (table ++ pairs)).Nodup) : putAll table pairs = table ++ pairs := by
  induction pairs generalizing table with
  | nil => rw [List.append_nil]; rfl
  | cons p rest ih =>
    have hk : p.1 ∉ keys table := by
      rw [keys, List.map_append] at h
      exact fun hm => (List.nodup_append.mp h).2.2 _ hm _ List.mem_cons_self rfl
    rw [List.append_cons] at h ⊢
    rw [putAll, List.foldl_cons, put_of_not_mem hk]
    exact ih h

theorem ofPairs_eq {pairs : List (String × α)} (h : (keys pairs).Nodup) :
    ofPairs pairs = pairs :=
  @putAll_append _ [] pairs h

variable {β γ : Type}

theorem mapValues_congr {f g : α → β} {table : Assoc α} (h : ∀ p ∈ table, f p.2 = g p.2) :
    mapValues f table = mapValues g table :=
  List.map_congr_left fun p hp => congrArg (Prod.mk p.1) (h p hp)

theorem mapValues_mapValues (f : α → β) (g : β → γ) (table : Assoc α) :
    mapValues g (mapValues f table) = mapValues (fun v => g (f v)) table := by
  rw [mapValues, mapValues, List.map_map]
  rfl

theorem mapValues_id {f : α → α} {table : Assoc α} (h : ∀ p ∈ table, f p.2 = p.2) :
    mapValues f table = table := by
  induction table with
  | nil => rfl
  | cons p rest ih =>
    obtain ⟨hp, hrest⟩ := List.forall_mem_cons.mp h
    rw [mapValues, List.map_cons, hp]
    exact congrArg (p :: ·) (ih hrest)

theorem mapValues_put (f : α → β) (table : Assoc α) (key : String) (value : α) :
    mapValues f (put table key value) = put (mapValues f table) key (f value) := by
  induction table with
  | nil => rfl
  | cons p rest ih =>
    obtain ⟨k, v⟩ := p
    by_cases hk : k = key
    · simp [mapValues, put, hk]
    · simpa [mapValues, put, hk] using ih

theorem mapValues_putAll (f : α → β) (table : Assoc α) (pairs : List (String × α)) :
    mapValues f (putAll table pairs) = putAll (mapValues f table) (mapValues f pairs) := by
  induction pairs generalizing table with
  | nil => rfl
  | cons p rest ih =>
    have hcons : mapValues f (p :: rest) = (p.1, f p.2) :: mapValues f rest := rfl
    rw [hcons, putAll, putAll, List.foldl_cons, List.foldl_cons, ← mapValues_put]
    exact ih _

@[simp] theorem keys_mapValues (f : α → β) (table : Assoc α) :
    keys (mapValues f table) = keys table := by
  rw [keys, mapValues, List.map_map]
  rfl

@[simp] theorem get?_mapValues (f : α → β) (table : Assoc α) (key : String) :
    get? (mapValues f table) key = (get? table key).map f := by
  induction table with
  | nil => rfl
  | cons p rest ih =>
    by_cases hk : p.1 = key
    · simp [mapValues, get?, hk]
    · simpa [mapValues, get?, hk] using ih

theorem get?_ofPairs_mapValues (f : α → β) (pairs : List (String × α)) (key : String) :
    get? (ofPairs (mapValues f pairs)) key = (get? (ofPairs pairs) key).map f := by
  have hmap : ofPairs (mapValues f pairs) = mapValues f (ofPairs pairs) :=
    (mapValues_putAll f [] pairs).symm
  rw [hmap, get?_mapValues]

@[simp] theorem has_mapValues (f : α → β) (table : Assoc α) (key : String) :
    has (mapValues f table) key = has table key := by
  rw [has, has, get?_mapValues, Option.isSome_map]

end Storyboard.Assoc

import Mathlib.Data.Nat.Digits.Defs
import Storyboard.Proofs.Document.Restated

/-!
# Faithful readers of values

Texts and names from a list are read as they stand. A truth value may be given by a word or
a number and a record id by a number that is no whole one; what is written is the value
they stand for. A value without a declared kind is written with `null` in the place of
numbers that are not finite, a token value as it is.
-/
namespace Storyboard

variable {α : Type}

/-- A reader of values that are dumped as they stood. -/
theorem faithful_of_dump_eq {shape : Shape} {read : Json → Check α} {dump : α → Json}
    (hdump : ∀ v x, read v = .ok x → dump x = v) (hreread : ∀ x, (dump x).reread = dump x) :
    Faithful shape read dump id := by
  intro v x hv hx
  have hvx := hdump v x hx
  refine ⟨by rwa [hvx], by rwa [hreread, hvx], fun _ _ => ?_⟩
  rw [hreread, hvx]
  exact .refl v

theorem faithful_text : Faithful .free Read.text .str id := by
  refine faithful_of_dump_eq (fun v x hx => ?_) fun _ => rfl
  cases v with
  | str s => cases hx; rfl
  | _ => cases hx

theorem Read.choice_eq_ok {all : List α} {name : α → String} {v : Json} {a : α}
    (h : Read.choice all name v = .ok a) : v = .str (name a) := by
  unfold Read.choice at h
  split at h
  · rename_i found hfound
    cases h
    cases v with
    | str s =>
      have hname := List.find?_some hfound
      rw [beq_iff_eq.mp hname]
    | _ => cases hfound
  · cases h

theorem faithful_choice (all : List α) (name : α → String) :
    Faithful .free (Read.choice all name) (fun a => .str (name a)) id :=
  faithful_of_dump_eq (fun _ _ hx => (Read.choice_eq_ok hx).symm) fun _ => rfl

theorem faithful_flag : Faithful .flag Read.flag .bool id := by
  intro v x _ hx
  refine ⟨.bool x, rfl, fun hc _ => ?_⟩
  cases v with
  | bool b => cases hx; exact .refl _
  | null => cases hx
  | _ => cases hc

theorem faithful_anything : Faithful .free Read.anything Json.finitize Json.finitize := by
  intro v x hv hx
  cases hx
  refine ⟨hv.finitize, by rw [Json.reread_finitize]; rfl, fun _ hfin => ?_⟩
  rw [Json.reread_finitize, Json.finitize_of_allFinite hfin]
  exact .refl v

/-- A word of 64 bits is written with few digits. -/
theorem legible_of_withinWord {n : Int} (h : Read.withinWord n = true) :
    (Json.int n).Legible textBounds := by
  have hn : n.natAbs < 10 ^ 19 := by
    obtain ⟨hlow, hhigh⟩ := (Bool.and_eq_true _ _).mp h
    have hlow' : -9223372036854775808 ≤ n := of_decide_eq_true hlow
    have hhigh' : n < 9223372036854775808 := of_decide_eq_true hhigh
    omega
  refine .int n (Nat.le_trans ((Nat.length_repr_le_iff (by decide)).mpr hn) ?_)
  decide

theorem legible_of_whole {v : Json} (hv : v.Legible textBounds) {n : Int}
    (hn : Read.whole v = .ok n) : (Json.int n).Legible textBounds := by
  cases v with
  | int m => cases hn; exact hv
  | bool b =>
    cases hn
    cases b <;> exact legible_of_withinWord (by decide)
  | float x =>
    simp only [Read.whole] at hn
    split at hn
    · cases hn
    · split at hn
      · cases hn
      · split at hn
        · rename_i hword
          cases hn
          exact legible_of_withinWord (Bool.and_eq_true _ _ ▸ hword).1
        · cases hn
  | _ => cases hn

theorem faithful_recordId : Faithful .recordId Action.recordId RecordId.toJson id := by
  intro v x hv hx
  unfold Action.recordId at hx
  split at hx
  · rename_i s hs
    cases hx
    have hvs := (faithful_text v s hv hs)
    exact ⟨hvs.legible, rfl, fun _ => hvs.alike (Json.canonical_free v)⟩
  · rename_i hs
    split at hx
    · rename_i n hn
      cases hx
      refine ⟨legible_of_whole hv hn, rfl, fun hc _ => ?_⟩
      cases v with
      | int m => cases hn; exact .refl _
      | str s => cases hs
      | _ => cases hc
    · cases hx

/-- A token value as it comes back from its text. -/
def TokenValue.settled : TokenValue → TokenValue
  | .real x => .real x.plain
  | t => t

theorem faithful_tokenValue :
    Faithful .free Read.tokenValue TokenValue.toJson TokenValue.settled := by
  intro v x hv hx
  cases v with
  | str s => cases hx; exact ⟨hv, rfl, fun _ _ => .refl _⟩
  | int n => cases hx; exact ⟨hv, rfl, fun _ _ => .refl _⟩
  | bool b => cases hx; exact ⟨hv, rfl, fun _ _ => .refl _⟩
  | float x =>
    cases hx
    refine ⟨hv, rfl, fun _ hfin => ?_⟩
    rw [TokenValue.toJson, Json.reread_of_allFinite hfin]
    exact .refl _
  | _ => cases hx

section Containers

variable {shape : Shape} {read : Json → Check α} {dump : α → Json} {settle : α → α}

/-- The items of lists, and the values of tables, are restated one by one. -/
theorem restated_items (hf : Faithful shape read dump settle) {vs : List Json} {xs : List α}
    (hvs : ∀ v ∈ vs, v.Legible textBounds) (h : List.Forall₂ (fun v x => read v = .ok x) vs xs) :
    List.Forall₂ (fun v x => Restated shape read v (dump x) (settle x)) vs xs :=
  ((List.forall₂_and_left _ _).mpr ⟨hvs, h⟩).imp fun v x hvx => hf v x hvx.1 hvx.2

theorem list_again {xs : List α} (h : ∀ a ∈ xs, ComesBack read dump a (settle a)) :
    ComesBack (Read.list read) (fun xs => .arr (xs.map dump)) xs (xs.map settle) := by
  rw [ComesBack, Json.reread_arr, List.map_map]
  refine Read.list_eq_ok.mpr ⟨_, rfl, ?_⟩
  rw [List.forall₂_map_left_iff, List.forall₂_map_right_iff, List.forall₂_same]
  exact h

theorem Faithful.list (hf : Faithful shape read dump settle) :
    Faithful (.list shape) (Read.list read) (fun xs => .arr (xs.map dump))
      (List.map settle) := by
  intro v xs hv hxs
  obtain ⟨vs, rfl, hall⟩ := Read.list_eq_ok.mp hxs
  cases hv with
  | arr _ hvs =>
    have hitems := restated_items hf hvs hall
    refine ⟨.arr _ ?_, ?_, fun hc hfin => ?_⟩
    · intro w hw
      obtain ⟨x, hx, rfl⟩ := List.mem_map.mp hw
      obtain ⟨v, _, hrestated⟩ := exists_of_forall₂_right hitems hx
      exact hrestated.legible
    · refine list_again fun x hx => ?_
      obtain ⟨v, _, hrestated⟩ := exists_of_forall₂_right hitems hx
      exact hrestated.again
    · rw [Json.reread_arr, List.map_map]
      refine .arr (List.forall₂_map_left_iff.mpr (List.Forall₂.flip ?_))
      have hboth := (List.forall₂_and_left _ _).mpr
        ⟨fun v hv => And.intro (Json.canonical_list.mp hc v hv)
          ((Json.allFinite_arr vs).mp hfin v hv), hitems⟩
      exact hboth.imp fun v x hvx => hvx.2.alike hvx.1.1 hvx.1.2

theorem keys_eq_of_forall₂ {β : Type} {r : String × Json → String × β → Prop}
    (hr : ∀ p q, r p q → p.1 = q.1) {fields : List (String × Json)} {xs : Assoc β}
    (h : List.Forall₂ r fields xs) : Assoc.keys xs = Assoc.keys fields := by
  induction h with
  | nil => rfl
  | cons hpq _ ih => exact congr (congrArg List.cons (hr _ _ hpq).symm) ih

/-- Tables with the same keys have related values under each of them. -/
theorem each_key_of_forall₂ {β : Type} {r : String × Json → String × β → Prop}
    (hr : ∀ p q, r p q → p.1 = q.1) {fields : List (String × Json)} {xs : Assoc β}
    (h : List.Forall₂ r fields xs) (key : String) :
    (Assoc.get? fields key = none ∧ Assoc.get? xs key = none) ∨
      ∃ v x, Assoc.get? fields key = some v ∧ Assoc.get? xs key = some x ∧ r (key, v) (key, x) := by
  induction h with
  | nil => exact .inl ⟨rfl, rfl⟩
  | @cons p q _ _ hpq _ ih =>
    obtain ⟨k, v⟩ := p
    obtain ⟨k', x⟩ := q
    obtain rfl : k = k' := hr _ _ hpq
    by_cases hk : k = key
    · subst hk
      exact .inr ⟨v, x, by simp [Assoc.get?], by simp [Assoc.get?], hpq⟩
    · simpa [Assoc.get?, hk] using ih

theorem Faithful.table (hf : Faithful shape read dump settle) :
    Faithful (.table shape) (Read.table read) (dumpTable dump) (Assoc.mapValues settle) := by
  intro v xs hv hxs
  obtain ⟨fields, rfl, hall⟩ := Read.table_eq_ok.mp hxs
  cases hv with
  | obj _ hdistinct hvs =>
    have hvalues : List.Forall₂ (fun p q => p.1 = q.1 ∧
        Restated shape read p.2 (dump q.2) (settle q.2)) fields xs :=
      ((List.forall₂_and_left _ _).mpr ⟨hvs, hall⟩).imp fun p q hpq =>
        ⟨hpq.2.1, hf p.2 q.2 hpq.1 hpq.2.2⟩
    have hkeys := keys_eq_of_forall₂ (fun _ _ h => h.1) hall
    refine ⟨.obj _ ?_ ?_, ?_, fun hc hfin => ?_⟩
    · rwa [Assoc.keys_mapValues, hkeys]
    · intro w hw
      obtain ⟨q, hq, rfl⟩ := List.mem_map.mp hw
      obtain ⟨p, _, hrestated⟩ := exists_of_forall₂_right hvalues hq
      exact hrestated.2.legible
    · rw [dumpTable, Json.reread_obj, Assoc.mapValues_mapValues]
      refine Read.table_eq_ok.mpr ⟨_, rfl, ?_⟩
      rw [Assoc.mapValues, Assoc.mapValues, List.forall₂_map_left_iff, List.forall₂_map_right_iff,
        List.forall₂_same]
      intro q hq
      obtain ⟨p, _, hrestated⟩ := exists_of_forall₂_right hvalues hq
      exact ⟨rfl, hrestated.2.again⟩
    · rw [dumpTable, Json.reread_obj, Assoc.mapValues_mapValues]
      refine .of_each_key fun key => ?_
      rw [Assoc.get?_mapValues]
      rcases each_key_of_forall₂ (fun _ _ h => h.1) hvalues key with
        ⟨hv, hx⟩ | ⟨v, x, hv, hx, -, hrestated⟩
      · exact .inl ⟨by rw [hx]; rfl, hv⟩
      · refine .inr ⟨_, v, by rw [hx]; rfl, hv, hrestated.alike ?_ ?_⟩
        · exact Json.canonical_table.mp hc _ (Assoc.mem_of_get? hv)
        · exact (Json.allFinite_obj fields).mp hfin _ (Assoc.mem_of_get? hv)

theorem Faithful.free_of_table (hf : Faithful (.table .free) read dump settle) :
    Faithful .free read dump settle :=
  fun v x hv hx => (hf v x hv hx).of_canonical fun _ => v.canonical_table_free

end Containers

/-- A table of texts. -/
theorem faithful_textTable : Faithful .free (Read.table Read.text) textTable id := by
  have h := faithful_text.table.free_of_table
  have hid : (Assoc.mapValues id : Assoc String → Assoc String) = id :=
    funext fun table => Assoc.mapValues_id fun _ _ => rfl
  rwa [hid] at h

/-- A table of values without a declared kind. -/
theorem faithful_anyTable : Faithful .free (Read.table Read.anything)
    (fun fields => .obj (Mode.asWritten.anyFields fields)) Json.finitizeFields := by
  have h := faithful_anything.table.free_of_table
  have hdump : dumpTable Json.finitize = fun fields => .obj (Mode.asWritten.anyFields fields) :=
    funext fun fields => congrArg Json.obj (Json.finitizeFields_eq fields).symm
  have hsettle : Assoc.mapValues Json.finitize = Json.finitizeFields :=
    funext fun fields => (Json.finitizeFields_eq fields).symm
  rwa [hdump, hsettle] at h

end Storyboard

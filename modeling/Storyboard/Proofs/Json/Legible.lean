import Mathlib.Data.List.Forall2
import Storyboard.Json.Reader
import Storyboard.Json.Writer
import Storyboard.Proofs.Assoc

/-!
# Legible values

A value is legible when text can hold it: the keys of its objects are distinct, its
whole numbers have no more digits than a reader takes, and the text of each of its
doubles reads back. What comes back is `reread`: the payload of a number that is none is
not in its text. `finitize` and `reread` both replace the doubles of a value and leave the
rest alone, so what they share is said of `mapFloats`.
-/
namespace Storyboard

/-- The number as its text tells it. -/
def Binary64.plain : Binary64 → Binary64
  | .nan _ => .nan 0
  | x => x

namespace Json

inductive Legible (bounds : Bounds) : Json → Prop
  | null : Legible bounds .null
  | bool (b : Bool) : Legible bounds (.bool b)
  | int (n : Int) (digits : (toString n.natAbs).length ≤ bounds.digits) : Legible bounds (.int n)
  | float (x : Binary64)
    (text : scalar bounds (x.render numberLayout).toList = .ok (.float x.plain, [])) :
    Legible bounds (.float x)
  | str (s : String) : Legible bounds (.str s)
  | arr (items : List Json) (items_legible : ∀ v ∈ items, Legible bounds v) :
    Legible bounds (.arr items)
  | obj (fields : List (String × Json)) (distinct : (Assoc.keys fields).Nodup)
    (values_legible : ∀ p ∈ fields, Legible bounds p.2) : Legible bounds (.obj fields)

/-- Two values are one, the order of keys aside. -/
inductive Equivalent : Json → Json → Prop
  | refl (v : Json) : Equivalent v v
  | arr {as bs : List Json} (items : List.Forall₂ Equivalent as bs) :
    Equivalent (.arr as) (.arr bs)
  | obj {as bs : List (String × Json)} (keys : ∀ key, Assoc.has as key = Assoc.has bs key)
    (values : ∀ key a b, Assoc.get? as key = some a → Assoc.get? bs key = some b →
      Equivalent a b) :
    Equivalent (.obj as) (.obj bs)

/-- Values are built from scalars through lists and objects. -/
@[elab_as_elim]
theorem induction {P : Json → Prop} (null : P .null) (bool : ∀ b, P (.bool b))
    (int : ∀ n, P (.int n)) (float : ∀ x, P (.float x)) (str : ∀ s, P (.str s))
    (arr : ∀ items, (∀ v ∈ items, P v) → P (.arr items))
    (obj : ∀ fields, (∀ p ∈ fields, P p.2) → P (.obj fields)) (v : Json) : P v :=
  @Json.rec P (fun items => ∀ v ∈ items, P v) (fun fields => ∀ p ∈ fields, P p.2)
    (fun p => P p.2) null bool int float str arr obj (by simp)
    (fun _ _ hv hrest => List.forall_mem_cons.mpr ⟨hv, hrest⟩) (by simp)
    (fun _ _ hp hrest => List.forall_mem_cons.mpr ⟨hp, hrest⟩) (fun _ _ hv => hv) v

mutual

/-- The value with its doubles replaced. -/
def mapFloats (f : Binary64 → Json) : Json → Json
  | .float x => f x
  | .arr items => .arr (mapFloatsItems f items)
  | .obj fields => .obj (mapFloatsFields f fields)
  | v => v

def mapFloatsItems (f : Binary64 → Json) : List Json → List Json
  | [] => []
  | v :: rest => mapFloats f v :: mapFloatsItems f rest

def mapFloatsFields (f : Binary64 → Json) : List (String × Json) → List (String × Json)
  | [] => []
  | (k, v) :: rest => (k, mapFloats f v) :: mapFloatsFields f rest

end

/-- The value as it comes back from its text. -/
def reread (v : Json) : Json := v.mapFloats fun x => .float x.plain

/-- A double as text holds it where a value has no declared kind. -/
def finiteOrNull (x : Binary64) : Json := if x.isFinite then .float x else .null

variable {f g : Binary64 → Json}

theorem mapFloatsItems_eq (items : List Json) :
    mapFloatsItems f items = items.map (mapFloats f) := by
  induction items with
  | nil => rfl
  | cons v rest ih => rw [mapFloatsItems, ih, List.map_cons]

theorem mapFloatsFields_eq (fields : List (String × Json)) :
    mapFloatsFields f fields = Assoc.mapValues (mapFloats f) fields := by
  induction fields with
  | nil => rfl
  | cons p rest ih => rw [mapFloatsFields, ih, Assoc.mapValues, Assoc.mapValues, List.map_cons]

@[simp] theorem mapFloats_arr (items : List Json) :
    (Json.arr items).mapFloats f = .arr (items.map (mapFloats f)) := by
  rw [mapFloats, mapFloatsItems_eq]

@[simp] theorem mapFloats_obj (fields : List (String × Json)) :
    (Json.obj fields).mapFloats f = .obj (Assoc.mapValues (mapFloats f) fields) := by
  rw [mapFloats, mapFloatsFields_eq]

theorem finitizeItems_eq (items : List Json) : finitizeItems items = items.map finitize := by
  induction items with
  | nil => rfl
  | cons v rest ih => rw [finitizeItems, ih, List.map_cons]

theorem finitizeFields_eq (fields : List (String × Json)) :
    finitizeFields fields = Assoc.mapValues finitize fields := by
  induction fields with
  | nil => rfl
  | cons p rest ih => rw [finitizeFields, ih, Assoc.mapValues, Assoc.mapValues, List.map_cons]

theorem finitize_eq_mapFloats (v : Json) : v.finitize = v.mapFloats finiteOrNull := by
  induction v using Json.induction with
  | arr items ih => rw [finitize, finitizeItems_eq, mapFloats_arr, List.map_congr_left ih]
  | obj fields ih =>
    rw [finitize, finitizeFields_eq, mapFloats_obj, Assoc.mapValues_congr ih]
  | _ => rfl

/-- One replacement after another. -/
theorem mapFloats_mapFloats (v : Json) :
    (v.mapFloats f).mapFloats g = v.mapFloats fun x => (f x).mapFloats g := by
  induction v using Json.induction with
  | arr items ih =>
    rw [mapFloats_arr, mapFloats_arr, mapFloats_arr, List.map_map]
    exact congrArg Json.arr (List.map_congr_left ih)
  | obj fields ih =>
    rw [mapFloats_obj, mapFloats_obj, mapFloats_obj, Assoc.mapValues_mapValues]
    exact congrArg Json.obj (Assoc.mapValues_congr ih)
  | _ => rfl

theorem allFinite_arr (items : List Json) :
    (Json.arr items).allFinite = true ↔ ∀ v ∈ items, v.allFinite = true := by
  rw [allFinite]
  induction items with
  | nil => simp [allFiniteItems]
  | cons v rest ih => simp [allFiniteItems, ih]

theorem allFinite_obj (fields : List (String × Json)) :
    (Json.obj fields).allFinite = true ↔ ∀ p ∈ fields, p.2.allFinite = true := by
  rw [allFinite]
  induction fields with
  | nil => simp [allFiniteFields]
  | cons p rest ih => simp only [allFiniteFields, Bool.and_eq_true, ih, List.forall_mem_cons]

/-- A replacement that keeps finite doubles keeps values that have no others. -/
theorem mapFloats_of_allFinite (hf : ∀ x : Binary64, x.isFinite = true → f x = .float x)
    {v : Json} (hv : v.allFinite = true) : v.mapFloats f = v := by
  induction v using Json.induction with
  | float x => exact hf x hv
  | arr items ih =>
    have hitems : ∀ v ∈ items, v.mapFloats f = id v := fun v hm =>
      ih v hm ((allFinite_arr items).mp hv v hm)
    rw [mapFloats_arr, List.map_congr_left hitems, List.map_id]
  | obj fields ih =>
    rw [mapFloats_obj]
    exact congrArg Json.obj
      (Assoc.mapValues_id fun p hp => ih p hp ((allFinite_obj fields).mp hv p hp))
  | _ => rfl

theorem finitize_of_allFinite {v : Json} (hv : v.allFinite = true) : v.finitize = v := by
  rw [finitize_eq_mapFloats]
  exact mapFloats_of_allFinite (fun x hx => if_pos hx) hv

theorem reread_of_allFinite {v : Json} (hv : v.allFinite = true) : v.reread = v := by
  refine mapFloats_of_allFinite (fun x hx => ?_) hv
  cases x with
  | finite => rfl
  | _ => cases hx

theorem reread_finitize (v : Json) : v.finitize.reread = v.finitize := by
  rw [finitize_eq_mapFloats, reread, mapFloats_mapFloats]
  congr 1
  funext x
  cases x <;> rfl

theorem finitize_finitize (v : Json) : v.finitize.finitize = v.finitize := by
  rw [finitize_eq_mapFloats v, finitize_eq_mapFloats, mapFloats_mapFloats]
  congr 1
  funext x
  cases x <;> rfl

@[simp] theorem finitizeFields_finitizeFields (fields : List (String × Json)) :
    finitizeFields (finitizeFields fields) = finitizeFields fields := by
  rw [finitizeFields_eq, finitizeFields_eq, Assoc.mapValues_mapValues]
  exact Assoc.mapValues_congr fun p _ => finitize_finitize p.2

@[simp] theorem reread_str (s : String) : (Json.str s).reread = .str s := rfl

@[simp] theorem reread_bool (b : Bool) : (Json.bool b).reread = .bool b := rfl

@[simp] theorem reread_obj (fields : List (String × Json)) :
    (Json.obj fields).reread = .obj (Assoc.mapValues reread fields) := mapFloats_obj fields

@[simp] theorem reread_arr (items : List Json) :
    (Json.arr items).reread = .arr (items.map reread) := mapFloats_arr items

theorem mapValues_reread_finitizeFields (fields : List (String × Json)) :
    Assoc.mapValues reread (finitizeFields fields) = finitizeFields fields := by
  rw [finitizeFields_eq, Assoc.mapValues_mapValues]
  exact Assoc.mapValues_congr fun p _ => reread_finitize p.2

theorem heightItems_le {items : List Json} {n : Nat} :
    heightItems items ≤ n ↔ ∀ v ∈ items, v.height ≤ n := by
  induction items with
  | nil => simp [heightItems]
  | cons v rest ih => simp only [heightItems, Nat.max_le, ih, List.forall_mem_cons]

theorem heightFields_le {fields : List (String × Json)} {n : Nat} :
    heightFields fields ≤ n ↔ ∀ p ∈ fields, p.2.height ≤ n := by
  induction fields with
  | nil => simp [heightFields]
  | cons p rest ih => simp only [heightFields, Nat.max_le, ih, List.forall_mem_cons]

theorem heightItems_map {h : Json → Json} {items : List Json}
    (heq : ∀ v ∈ items, (h v).height = v.height) :
    heightItems (items.map h) = heightItems items := by
  induction items with
  | nil => rfl
  | cons v rest ih =>
    obtain ⟨hv, hrest⟩ := List.forall_mem_cons.mp heq
    rw [List.map_cons, heightItems, heightItems, hv, ih hrest]

theorem heightFields_mapValues {h : Json → Json} {fields : List (String × Json)}
    (heq : ∀ p ∈ fields, (h p.2).height = p.2.height) :
    heightFields (Assoc.mapValues h fields) = heightFields fields := by
  induction fields with
  | nil => rfl
  | cons p rest ih =>
    obtain ⟨hp, hrest⟩ := List.forall_mem_cons.mp heq
    have hcons : heightFields (Assoc.mapValues h (p :: rest)) =
        max (h p.2).height (heightFields (Assoc.mapValues h rest)) := rfl
    rw [hcons, heightFields, hp, ih hrest]

@[simp] theorem height_finitize (v : Json) : v.finitize.height = v.height := by
  induction v using Json.induction with
  | float x => cases x <;> rfl
  | arr items ih => rw [finitize, height, height, finitizeItems_eq, heightItems_map ih]
  | obj fields ih => rw [finitize, height, height, finitizeFields_eq, heightFields_mapValues ih]
  | _ => rfl

@[simp] theorem heightFields_finitizeFields (fields : List (String × Json)) :
    heightFields (finitizeFields fields) = heightFields fields := by
  rw [finitizeFields_eq]
  exact heightFields_mapValues fun p _ => height_finitize p.2

mutual

/-- Whether text can hold a value. -/
def isLegible (bounds : Bounds) : Json → Bool
  | .int n => (toString n.natAbs).length ≤ bounds.digits
  | .float x =>
    match scalar bounds (x.render numberLayout).toList with
    | .ok (.float y, []) => y = x.plain
    | _ => false
  | .arr items => areLegible bounds items
  | .obj fields => (Assoc.keys fields).Nodup && fieldsLegible bounds fields
  | _ => true

def areLegible (bounds : Bounds) : List Json → Bool
  | [] => true
  | v :: rest => isLegible bounds v && areLegible bounds rest

def fieldsLegible (bounds : Bounds) : List (String × Json) → Bool
  | [] => true
  | (_, v) :: rest => isLegible bounds v && fieldsLegible bounds rest

end

section Decide

variable {bounds : Bounds}

theorem areLegible_iff {items : List Json} :
    areLegible bounds items = true ↔ ∀ v ∈ items, isLegible bounds v = true := by
  induction items with
  | nil => simp [areLegible]
  | cons v rest ih => simp [areLegible, ih]

theorem fieldsLegible_iff {fields : List (String × Json)} :
    fieldsLegible bounds fields = true ↔ ∀ p ∈ fields, isLegible bounds p.2 = true := by
  induction fields with
  | nil => simp [fieldsLegible]
  | cons p rest ih => simp only [fieldsLegible, Bool.and_eq_true, ih, List.forall_mem_cons]

theorem legible_of_isLegible {v : Json} (h : isLegible bounds v = true) : v.Legible bounds := by
  induction v using Json.induction with
  | null => exact .null
  | bool b => exact .bool b
  | int n => exact .int n (of_decide_eq_true h)
  | float x =>
    refine .float x ?_
    rw [isLegible] at h
    split at h
    · rename_i y hy
      rw [hy, of_decide_eq_true h]
    · cases h
  | str s => exact .str s
  | arr items ih =>
    rw [isLegible, areLegible_iff] at h
    exact .arr items fun v hv => ih v hv (h v hv)
  | obj fields ih =>
    rw [isLegible, Bool.and_eq_true, fieldsLegible_iff] at h
    exact .obj fields (of_decide_eq_true h.1) fun p hp => ih p hp (h.2 p hp)

theorem isLegible_of_legible {v : Json} (h : v.Legible bounds) : isLegible bounds v = true := by
  induction h with
  | int n digits => exact decide_eq_true digits
  | float x text => rw [isLegible, text]; exact decide_eq_true rfl
  | arr items _ ih => rw [isLegible, areLegible_iff]; exact ih
  | obj fields distinct _ ih =>
    rw [isLegible, Bool.and_eq_true, fieldsLegible_iff]
    exact ⟨decide_eq_true distinct, ih⟩
  | _ => rfl

instance (v : Json) : Decidable (v.Legible bounds) :=
  decidable_of_iff _ ⟨legible_of_isLegible, isLegible_of_legible⟩

end Decide

theorem Legible.finitize {bounds : Bounds} {v : Json} (hv : v.Legible bounds) :
    v.finitize.Legible bounds := by
  induction hv with
  | float x hx =>
    rw [Json.finitize]
    split
    · exact .float x hx
    · exact .null
  | arr items _ ih =>
    rw [Json.finitize, finitizeItems_eq]
    exact .arr _ (List.forall_mem_map.mpr ih)
  | obj fields hd _ ih =>
    rw [Json.finitize, finitizeFields_eq]
    exact .obj _ (by rwa [Assoc.keys_mapValues]) (List.forall_mem_map.mpr ih)
  | null => exact .null
  | bool b => exact .bool b
  | int n hn => exact .int n hn
  | str s => exact .str s

theorem Legible.get? {bounds : Bounds} {fields : List (String × Json)} {key : String} {v : Json}
    (h : (Json.obj fields).Legible bounds) (hv : Assoc.get? fields key = some v) :
    v.Legible bounds := by
  cases h with
  | obj _ _ hvalues => exact hvalues _ (Assoc.mem_of_get? hv)

/-- Objects are one if under each key they have one value, or neither has any. -/
theorem Equivalent.of_each_key {as bs : List (String × Json)}
    (h : ∀ key, (Assoc.get? as key = none ∧ Assoc.get? bs key = none) ∨
      ∃ a b, Assoc.get? as key = some a ∧ Assoc.get? bs key = some b ∧ a.Equivalent b) :
    Equivalent (.obj as) (.obj bs) := by
  refine .obj (fun key => ?_) fun key a b ha hb => ?_
  · rcases h key with ⟨ha, hb⟩ | ⟨a, b, ha, hb, -⟩
    · rw [Assoc.has, Assoc.has, ha, hb]
    · rw [Assoc.has, Assoc.has, ha, hb]
      rfl
  · rcases h key with ⟨ha', -⟩ | ⟨a', b', ha', hb', hab⟩
    · rw [ha] at ha'
      cases ha'
    · rw [ha] at ha'
      rw [hb] at hb'
      cases ha'
      cases hb'
      exact hab

/-- A value in lists, one in the other. -/
def wrapped : Nat → Json
  | 0 => .arr []
  | n + 1 => .arr [wrapped n]

theorem height_wrapped (n : Nat) : (wrapped n).height = n + 1 := by
  induction n with
  | zero => rfl
  | succ n ih => rw [wrapped, height, heightItems, heightItems, ih, Nat.max_zero]

theorem legible_wrapped (bounds : Bounds) (n : Nat) : (wrapped n).Legible bounds := by
  induction n with
  | zero => exact .arr [] nofun
  | succ n ih => exact .arr _ (by simpa using ih)

end Json

end Storyboard

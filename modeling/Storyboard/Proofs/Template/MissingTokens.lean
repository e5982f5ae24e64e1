import Mathlib.Data.List.Basic
import Storyboard.Proofs.Assoc
import Storyboard.Template.Token

/-!
# Missing tokens

`distinct` keeps of each name the first occurrence, so what is missing is listed in the order in
which it is first referred to. Of a single text a token is missing exactly if the text stays as it
is for lack of it.
-/
namespace Storyboard.Token

/-- The names of a list, each once, in the order in which they first occur. -/
structure FirstOccurrences (names found : List String) : Prop where
  same : ∀ name, name ∈ found ↔ name ∈ names
  order : found.Pairwise fun a b => names.idxOf a < names.idxOf b

/-- One more name, as `distinct` takes it in. -/
def takeIn (seen : List String) (name : String) : List String :=
  if seen.contains name then seen else seen ++ [name]

theorem FirstOccurrences.nil : FirstOccurrences [] [] := ⟨fun _ => Iff.rfl, .nil⟩

theorem FirstOccurrences.takeIn {names found : List String} (h : FirstOccurrences names found)
    (name : String) : FirstOccurrences (names ++ [name]) (takeIn found name) := by
  have horder : found.Pairwise fun a b =>
      (names ++ [name]).idxOf a < (names ++ [name]).idxOf b := by
    refine h.order.imp_of_mem fun ha hb hlt => ?_
    rwa [List.idxOf_append_of_mem ((h.same _).mp ha), List.idxOf_append_of_mem ((h.same _).mp hb)]
  rw [Token.takeIn, List.contains_eq_mem]
  by_cases hseen : name ∈ found
  · rw [if_pos (decide_eq_true hseen)]
    refine ⟨fun other => ?_, horder⟩
    rw [h.same, List.mem_append, List.mem_singleton]
    exact ⟨.inl, fun hmem => hmem.elim id fun heq => heq ▸ (h.same name).mp hseen⟩
  · have hnew : name ∉ names := fun hmem => hseen ((h.same name).mpr hmem)
    rw [if_neg (by simpa using hseen)]
    refine ⟨fun other => ?_, List.pairwise_append.mpr ⟨horder, List.pairwise_singleton _ _, ?_⟩⟩
    · rw [List.mem_append, List.mem_append, h.same]
    · intro a ha b hb
      cases List.mem_singleton.mp hb
      have hbefore := (h.same a).mp ha
      rw [List.idxOf_append_of_mem hbefore, List.idxOf_append_of_notMem hnew]
      exact Nat.lt_add_right _ (List.idxOf_lt_length_of_mem hbefore)

/-- Taking in names one after the other keeps the first occurrences of all taken in so far. -/
theorem FirstOccurrences.foldl {names found : List String} (h : FirstOccurrences names found)
    (more : List String) : FirstOccurrences (names ++ more) (more.foldl Token.takeIn found) := by
  induction more generalizing names found with
  | nil => rwa [List.append_nil]
  | cons name rest ih =>
    rw [List.append_cons]
    exact ih (h.takeIn name)

theorem FirstOccurrences.nodup {names found : List String} (h : FirstOccurrences names found) :
    found.Nodup :=
  h.order.imp fun hlt heq => by
    subst heq
    exact Nat.lt_irrefl _ hlt

theorem firstOccurrences_distinct (names : List String) :
    FirstOccurrences names (distinct names) :=
  FirstOccurrences.nil.foldl names

/-- A text stays as it is for lack of a token: it refers to one, and that has no value. -/
def LeftLiteral (tokens : Assoc Json) (s : String) : Prop :=
  ∃ name, name? s = some name ∧ lookup tokens name = none

theorem LeftLiteral.resolve {tokens : Assoc Json} {s : String} (h : LeftLiteral tokens s) :
    resolve tokens (.str s) = .str s := by
  obtain ⟨name, hname, hnone⟩ := h
  rw [Token.resolve, resolveString, hname, Option.bind_some, hnone]
  rfl

/-- Where every token has a value, a token has none only if there is no such token. -/
theorem lookup_eq_none {tokens : Assoc Json} (valued : ∀ p ∈ tokens, p.2 ≠ .null) {name : String} :
    lookup tokens name = none ↔ Assoc.has tokens name = false := by
  rw [lookup, Assoc.has]
  cases hfound : Assoc.get? tokens name with
  | none => simp
  | some v =>
    have hvalue : v ≠ .null := valued _ (Assoc.mem_of_get? hfound)
    cases v with
    | null => exact absurd rfl hvalue
    | _ => simp

theorem distinct_eq_nil {names : List String} : distinct names = [] ↔ names = [] := by
  simp only [List.eq_nil_iff_forall_not_mem, (firstOccurrences_distinct names).same]

/-- A token is missing in a text exactly if the text stays as it is for lack of it. -/
theorem missing_str_iff {tokens : Assoc Json} (valued : ∀ p ∈ tokens, p.2 ≠ .null) {s : String} :
    missing tokens (.str s) ≠ [] ↔ LeftLiteral tokens s := by
  rw [missing, ne_eq, distinct_eq_nil, references, LeftLiteral]
  cases name? s with
  | none => simp
  | some name => simp [lookup_eq_none valued]

end Storyboard.Token

import Mathlib.Data.List.Chain
import Mathlib.Order.Lattice
import Storyboard.Records.Order

/-!
# Stable sorting

Sorting arranges a list by the ranks of its elements: nothing is lost or doubled, the ranks
rise, and the elements of one rank keep the order they came in. This is shown for the run a list
begins with, and for the insertion of one element, which together make up the whole sort. All
that is asked of `less` is that it compares ranks, for the elements of this list. Also where it
compares none, as among numbers that are undefined, nothing is lost or doubled.
-/
namespace Storyboard

variable {α κ : Type} [LinearOrder κ]

/-- The elements of `source` in the order of their ranks, those of one rank as `source` has
them. -/
structure Arranged (precedes : κ → κ → Prop) (rank : α → κ) (source result : List α) : Prop where
  perm : result.Perm source
  inOrder : result.Pairwise fun a b => precedes (rank a) (rank b)
  stable : ∀ k, result.filter (fun a => rank a = k) = source.filter (fun a => rank a = k)

/-- `less` compares the elements of a list by their ranks. -/
def ComparesRanks (less : α → α → Bool) (rank : α → κ) (l : List α) : Prop :=
  ∀ a ∈ l, ∀ b ∈ l, (less a b = true ↔ rank a < rank b)

variable {less : α → α → Bool} {rank : α → κ}

theorem ComparesRanks.mono {l part : List α} (h : ComparesRanks less rank l) (hpart : part ⊆ l) :
    ComparesRanks less rank part :=
  fun a ha b hb => h a (hpart ha) b (hpart hb)

namespace Arranged

variable {precedes : κ → κ → Prop} {source result : List α}

/-- Backwards, the order is the opposite one. -/
theorem reverse (h : Arranged precedes rank source.reverse result) :
    Arranged (fun j k => precedes k j) rank source result.reverse where
  perm := result.reverse_perm.trans (h.perm.trans source.reverse_perm)
  inOrder := List.pairwise_reverse.mpr h.inOrder
  stable k := by rw [List.filter_reverse, h.stable, List.filter_reverse, List.reverse_reverse]

/-- Arranging elements by the ranks of their images arranges the images. -/
theorem map {β : Type} (f : β → α) {source result : List β}
    (h : Arranged precedes (fun b => rank (f b)) source result) :
    Arranged precedes rank (source.map f) (result.map f) where
  perm := h.perm.map f
  inOrder := List.pairwise_map.mpr h.inOrder
  stable k := by
    rw [List.filter_map, List.filter_map]
    exact congrArg (List.map f) (h.stable k)

end Arranged

theorem risingFrom_append (last : α) (l : List α) :
    (risingFrom less last l).1 ++ (risingFrom less last l).2 = l := by
  induction l generalizing last with
  | nil => rfl
  | cons x rest ih =>
    rw [risingFrom]
    split
    · rfl
    · exact congrArg (x :: ·) (ih x)

theorem fallingFrom_append (last : α) (l : List α) :
    (fallingFrom less last l).1 ++ (fallingFrom less last l).2 = l := by
  induction l generalizing last with
  | nil => rfl
  | cons x rest ih =>
    rw [fallingFrom]
    split
    · exact congrArg (x :: ·) (ih x)
    · rfl

/-- The elements in front of `low` do not rank above `x`, those from `high` on do. -/
structure Parts (rank : α → κ) (sorted : List α) (x : α) (low high : Nat) : Prop where
  before : ∀ y ∈ sorted.take low, rank y ≤ rank x
  behind : ∀ y ∈ sorted.drop high, rank x < rank y

/-- Looking at one element of a sorted list decides about all on one side of it. -/
theorem Parts.narrow {sorted : List α} {x y : α} {low high middle : Nat}
    (h : Parts rank sorted x low high) (hs : sorted.Pairwise fun a b => rank a ≤ rank b)
    (hy : sorted[middle]? = some y) :
    (rank x < rank y → Parts rank sorted x low middle) ∧
      (rank y ≤ rank x → Parts rank sorted x (middle + 1) high) := by
  obtain ⟨hlt, rfl⟩ := List.getElem?_eq_some_iff.mp hy
  have hsplit := hs
  rw [← List.take_append_drop middle sorted, List.drop_eq_getElem_cons hlt,
    List.pairwise_append, List.pairwise_cons] at hsplit
  obtain ⟨-, ⟨hbehind, -⟩, hbefore⟩ := hsplit
  constructor
  · intro hx
    refine ⟨h.before, fun z hz => ?_⟩
    rw [List.drop_eq_getElem_cons hlt, List.mem_cons] at hz
    obtain rfl | hz := hz
    · exact hx
    · exact hx.trans_le (hbehind z hz)
  · intro hx
    refine ⟨fun z hz => ?_, h.behind⟩
    rw [← List.take_append_getElem hlt, List.mem_append, List.mem_singleton] at hz
    obtain hz | rfl := hz
    · exact (hbefore z hz _ List.mem_cons_self).trans hx
    · exact hx

/-- Putting an element behind those that do not rank above it keeps a list arranged. -/
theorem Arranged.insert {source sorted : List α} {x : α} {place : Nat}
    (h : Arranged (· ≤ ·) rank source sorted) (hparts : Parts rank sorted x place place) :
    Arranged (· ≤ ·) rank (source ++ [x]) (sorted.take place ++ x :: sorted.drop place) where
  perm := by
    refine List.perm_middle.trans ?_
    rw [List.take_append_drop]
    exact (h.perm.cons x).trans (List.perm_append_singleton x source).symm
  inOrder := by
    have hsplit := h.inOrder
    rw [← List.take_append_drop place sorted, List.pairwise_append] at hsplit
    obtain ⟨hbefore, hbehind, hacross⟩ := hsplit
    rw [List.pairwise_append, List.pairwise_cons]
    refine ⟨hbefore, ⟨fun y hy => (hparts.behind y hy).le, hbehind⟩, fun y hy z hz => ?_⟩
    obtain rfl | hz := List.mem_cons.mp hz
    · exact hparts.before y hy
    · exact hacross y hy z hz
  stable k := by
    have hsource := h.stable k
    rw [← List.take_append_drop place sorted, List.filter_append] at hsource
    rw [List.filter_append, List.filter_append, ← hsource, List.filter_cons]
    by_cases hk : rank x = k
    · -- All that stands behind `x` has a higher rank than `k`.
      have hnone : (sorted.drop place).filter (fun a => rank a = k) = [] := by
        rw [List.filter_eq_nil_iff]
        intro y hy hyk
        have hlt := hparts.behind y hy
        rw [hk, of_decide_eq_true hyk] at hlt
        exact lt_irrefl k hlt
      rw [if_pos (decide_eq_true hk), hnone, List.append_nil, List.filter_singleton,
        decide_eq_true hk]
      rfl
    · rw [if_neg (by simpa using hk), List.filter_singleton, decide_eq_false hk]
      exact (List.append_nil _).symm

theorem firstRun_perm (less : α → α → Bool) (l : List α) :
    ((firstRun less l).1 ++ (firstRun less l).2).Perm l := by
  match l with
  | [] => exact .refl _
  | [x] => exact .refl _
  | x :: y :: rest =>
    rw [firstRun]
    split
    · refine ((List.reverse_perm _).append_right _).trans (.of_eq ?_)
      exact congrArg (x :: y :: ·) (fallingFrom_append y rest)
    · exact .of_eq (congrArg (x :: y :: ·) (risingFrom_append y rest))

theorem insertByHalves_perm (less : α → α → Bool) (sorted : List α) (x : α) :
    (insertByHalves less sorted x).Perm (x :: sorted) := by
  refine List.perm_middle.trans (.of_eq ?_)
  rw [List.take_append_drop]

theorem sortByRuns_perm (less : α → α → Bool) (l : List α) : (sortByRuns less l).Perm l := by
  have hothers : ∀ others run : List α,
      (others.foldl (insertByHalves less) run).Perm (run ++ others) := by
    intro others
    induction others with
    | nil => exact fun run => .of_eq (List.append_nil run).symm
    | cons x rest ih =>
      intro run
      refine (ih _).trans (((insertByHalves_perm less run x).append_right rest).trans ?_)
      exact List.perm_middle.symm
  exact (hothers _ _).trans (firstRun_perm less l)

theorem sortFalling_perm (less : α → α → Bool) (l : List α) : (sortFalling less l).Perm l :=
  (List.reverse_perm _).trans ((sortByRuns_perm less _).trans l.reverse_perm)

end Storyboard

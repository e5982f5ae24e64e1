import Mathlib.Algebra.Order.Field.Power
import Mathlib.Algebra.Order.Field.Rat
import Mathlib.Tactic.FieldSimp
import Mathlib.Tactic.Linarith
import Mathlib.Tactic.NormNum
import Mathlib.Tactic.Positivity
import Mathlib.Tactic.Ring
import Storyboard.Number.Shortest

/-!
# What rounds to a double

The rational numbers that round to a double lie around it, between the middles to its two
neighbours. No number rounds to two doubles: where the ranges of neighbours meet, the middle
belongs to the one whose significand is even. The decimal that a double is written as lies in
its range, whichever of the three ways it was found in, so it tells the double apart from all
others.
-/
namespace Storyboard

theorem zpow_eq_div (b : ℚ) (i : Int) : b ^ i = b ^ i.toNat / b ^ (-i).toNat := by
  rcases Int.le_total 0 i with hi | hi
  · have hneg : (-i).toNat = 0 := Int.toNat_of_nonpos (Int.neg_nonpos_of_nonneg hi)
    rw [hneg, pow_zero, div_one, ← zpow_natCast, Int.toNat_of_nonneg hi]
  · rw [Int.toNat_of_nonpos hi, pow_zero, one_div, ← zpow_natCast, ← zpow_neg,
      Int.toNat_of_nonneg (Int.neg_nonneg_of_nonpos hi), Int.neg_neg]

namespace Decimal

/-- The number that a decimal stands for. -/
def value (d : Decimal) : ℚ := d.digits * 10 ^ d.scale

theorem compareBinary_eq (a : Nat) (i : Int) (b : Nat) (j : Int) :
    compareBinary a i b j = compare (a * 10 ^ i : ℚ) (b * 2 ^ j) := by
  -- Both sides are brought to the denominators of the two powers.
  have hmono : StrictMono fun n : Nat => (n : ℚ) / (10 ^ (-i).toNat * 2 ^ (-j).toNat) :=
    fun m n hlt => div_lt_div_of_pos_right (Nat.cast_lt.mpr hlt) (by positivity)
  rw [compareBinary, ← cmp_eq_compare, ← cmp_eq_compare, ← hmono.cmp_map_eq,
    zpow_eq_div 10 i, zpow_eq_div 2 j]
  refine congrArg₂ cmp ?_ ?_
  · simp only [Nat.pow_eq]
    push_cast
    field_simp
  · simp only [Nat.pow_eq]
    push_cast
    field_simp

/-- Trailing zeros that move into the scale do not change the number. -/
theorem value_strip (fuel : Nat) (d : Decimal) : (strip fuel d).value = d.value := by
  induction fuel generalizing d with
  | zero => rfl
  | succ fuel ih =>
    rw [strip]
    split
    · rename_i hzero
      rw [ih]
      have hdigits : ((d.digits / 10 : Nat) : ℚ) * 10 = d.digits := by
        exact_mod_cast Nat.div_mul_cancel (Nat.dvd_of_mod_eq_zero (beq_iff_eq.mp hzero))
      rw [value, value, zpow_add_one₀ (by norm_num), ← hdigits]
      ring
    · rfl

theorem value_exactly (m : Nat) (e : Int) : (exactly m e).value = m * 2 ^ e := by
  unfold exactly
  split
  · rename_i he
    have hneg : (-e).toNat = 0 := Int.toNat_of_nonpos (Int.neg_nonpos_of_nonneg he)
    rw [value, zpow_eq_div 2 e, hneg]
    simp
  · rename_i he
    have hpos : e.toNat = 0 := Int.toNat_of_nonpos (le_of_not_ge he)
    rw [value, zpow_eq_div 2 e, zpow_eq_div 10 e, hpos, show (10 : ℚ) = 5 * 2 by norm_num,
      Nat.pow_eq]
    push_cast
    field_simp
    rw [mul_pow, mul_assoc]

end Decimal

namespace Binary64

/-- The significand and the exponent of a double: 53 bits, all of them in use unless the
exponent is the least. -/
structure Precise (m : Nat) (e : Int) : Prop where
  bits : m < 2 ^ 53
  least : leastExponent ≤ e
  greatest : e ≤ greatestExponent
  normal : e = leastExponent ∨ 2 ^ 52 ≤ m

/-- A value that a double can have. -/
def Proper : Binary64 → Prop
  | .finite _ m e => Precise m e
  | _ => True

/-- Four times the lower end of the range that rounds to a significand. Below a power of two
the doubles are twice as dense. -/
def lowEnd (m : Nat) (e : Int) : Nat :=
  if m = 2 ^ 52 ∧ leastExponent < e then 4 * m - 1 else 4 * m - 2

/-- A number rounds to `m · 2^e`: it lies between the middles to the neighbours, or on one of
them when the significand is even. -/
structure Rounds (m : Nat) (e : Int) (q : ℚ) : Prop where
  low : lowEnd m e * 2 ^ (e - 2) < q ∨ m % 2 = 0 ∧ lowEnd m e * 2 ^ (e - 2) = q
  high : q < (4 * m + 2 : Nat) * 2 ^ (e - 2) ∨ m % 2 = 0 ∧ q = (4 * m + 2 : Nat) * 2 ^ (e - 2)

theorem four_mul_zpow (m : Nat) (e : Int) : ((4 * m : Nat) : ℚ) * 2 ^ (e - 2) = m * 2 ^ e := by
  rw [zpow_sub₀ two_ne_zero]
  push_cast
  ring

/-- A double rounds to itself. -/
theorem rounds_self (m : Nat) (e : Int) : Rounds m e (m * 2 ^ e) := by
  have hunit : (0 : ℚ) < 2 ^ (e - 2) := zpow_pos two_pos _
  rw [← four_mul_zpow]
  constructor
  · rcases Nat.eq_zero_or_pos m with rfl | hm
    · exact .inr ⟨rfl, by simp [lowEnd]⟩
    · refine .inl (mul_lt_mul_of_pos_right (Nat.cast_lt.mpr ?_) hunit)
      unfold lowEnd
      split <;> omega
  · exact .inl (mul_lt_mul_of_pos_right (Nat.cast_lt.mpr (by omega)) hunit)

/-- No number rounds to a double and to a greater one. -/
theorem Rounds.not_greater {m n : Nat} {e f : Int} {q : ℚ} (h : Rounds m e q) (h' : Rounds n f q)
    (precise : Precise m e) (precise' : Precise n f) (greater : e < f ∨ e = f ∧ m < n) : False := by
  have hunit : (0 : ℚ) < 2 ^ (e - 2) := zpow_pos two_pos _
  have hlow : lowEnd n f * 2 ^ (f - 2) ≤ q := h'.low.elim le_of_lt fun h => h.2.le
  rcases greater with hlt | ⟨rfl, hlt⟩
  · -- The unit is at least doubled, and the greater significand has all its bits.
    have hf : leastExponent < f := lt_of_le_of_lt precise.least hlt
    have hn : 2 ^ 54 - 1 ≤ lowEnd n f := by
      have hnormal : 2 ^ 52 ≤ n := precise'.normal.resolve_left hf.ne'
      unfold lowEnd
      split <;> omega
    have hq : ((2 ^ 55 - 2 : Nat) : ℚ) * 2 ^ (e - 2) ≤ q :=
      calc ((2 ^ 55 - 2 : Nat) : ℚ) * 2 ^ (e - 2)
        _ = ((2 ^ 54 - 1 : Nat) : ℚ) * 2 ^ (e - 2 + 1) := by
          rw [zpow_add_one₀ two_ne_zero]; push_cast; ring
        _ ≤ lowEnd n f * 2 ^ (f - 2) := by
          refine mul_le_mul (Nat.cast_le.mpr hn) ?_ (zpow_nonneg two_pos.le _) (Nat.cast_nonneg _)
          exact zpow_le_zpow_right₀ one_le_two (by omega)
        _ ≤ q := hlow
    have hbits := precise.bits
    rcases h.high with hhigh | ⟨heven, hhigh⟩
    · refine absurd (lt_of_le_of_lt hq hhigh) (not_lt.mpr ?_)
      exact mul_le_mul_of_nonneg_right (Nat.cast_le.mpr (by omega)) hunit.le
    · refine absurd (hq.trans hhigh.le) (not_le.mpr ?_)
      exact mul_lt_mul_of_pos_right (Nat.cast_lt.mpr (by omega)) hunit
  · -- The ranges of two significands meet in a middle, where at most one of them is even.
    have hends : 4 * m + 2 ≤ lowEnd n e := by
      unfold lowEnd
      split <;> omega
    have hmiddle : ((4 * m + 2 : Nat) : ℚ) * 2 ^ (e - 2) ≤ lowEnd n e * 2 ^ (e - 2) :=
      mul_le_mul_of_nonneg_right (Nat.cast_le.mpr hends) hunit.le
    rcases h.high with hhigh | ⟨heven, hhigh⟩
    · exact absurd (hhigh.trans_le (hmiddle.trans hlow)) (lt_irrefl q)
    · rcases h'.low with hlow | ⟨heven', hlow⟩
      · exact absurd (hhigh.trans_lt (hmiddle.trans_lt hlow)) (lt_irrefl q)
      · have hsame : lowEnd n e = 4 * m + 2 :=
          Nat.cast_injective (mul_right_cancel₀ hunit.ne' (hlow.trans hhigh))
        unfold lowEnd at hsame
        split at hsame <;> omega

/-- A number rounds to one double. -/
theorem Rounds.unique {m n : Nat} {e f : Int} {q : ℚ} (h : Rounds m e q) (h' : Rounds n f q)
    (precise : Precise m e) (precise' : Precise n f) : m = n ∧ e = f := by
  rcases lt_trichotomy e f with hlt | rfl | hlt
  · exact (h.not_greater h' precise precise' (.inl hlt)).elim
  · rcases lt_trichotomy m n with hlt | rfl | hlt
    · exact (h.not_greater h' precise precise' (.inr ⟨rfl, hlt⟩)).elim
    · exact ⟨rfl, rfl⟩
    · exact (h'.not_greater h precise' precise (.inr ⟨rfl, hlt⟩)).elim
  · exact (h'.not_greater h precise' precise (.inl hlt)).elim

end Binary64

namespace Binary64

theorem scaled_compare (a b : Nat) (e : Int) :
    compare (a * 2 ^ (-e).toNat) (b * 2 ^ e.toNat) = compare (a : ℚ) (b * 2 ^ e) := by
  simpa [Decimal.compareBinary] using Decimal.compareBinary_eq a 0 b e

theorem scaled_lt {a b : Nat} {e : Int} :
    a * 2 ^ (-e).toNat < b * 2 ^ e.toNat ↔ (a : ℚ) < b * 2 ^ e := by
  rw [← compare_lt_iff_lt, scaled_compare, compare_lt_iff_lt]

theorem scaled_le {a b : Nat} {e : Int} :
    b * 2 ^ e.toNat ≤ a * 2 ^ (-e).toNat ↔ (b : ℚ) * 2 ^ e ≤ a := by
  rw [← not_lt, scaled_lt, not_lt]

/-- The quotient lies between the power of its exponent and the next one. -/
theorem floorLog2_spec {num den : Nat} (hnum : 0 < num) (hden : 0 < den) :
    den * (2 : ℚ) ^ floorLog2 num den ≤ num ∧
      (num : ℚ) < den * 2 ^ (floorLog2 num den + 1) := by
  have hnumLow : (2 : ℚ) ^ (num.log2 : Int) ≤ num := by
    exact_mod_cast Nat.log2_self_le hnum.ne'
  have hnumHigh : (num : ℚ) < 2 ^ ((num.log2 : Int) + 1) := by
    exact_mod_cast @Nat.lt_log2_self num
  have hdenLow : (2 : ℚ) ^ (den.log2 : Int) ≤ den := by
    exact_mod_cast Nat.log2_self_le hden.ne'
  have hdenHigh : (den : ℚ) < 2 ^ ((den.log2 : Int) + 1) := by
    exact_mod_cast @Nat.lt_log2_self den
  have hup : (num : ℚ) < den * 2 ^ ((num.log2 : Int) - den.log2 + 1) :=
    calc (num : ℚ)
      _ < 2 ^ ((num.log2 : Int) + 1) := hnumHigh
      _ = 2 ^ (den.log2 : Int) * 2 ^ ((num.log2 : Int) - den.log2 + 1) := by
        rw [← zpow_add₀ two_ne_zero]; congr 1; omega
      _ ≤ den * 2 ^ ((num.log2 : Int) - den.log2 + 1) :=
        mul_le_mul_of_nonneg_right hdenLow (zpow_nonneg two_pos.le _)
  have hdown : den * (2 : ℚ) ^ ((num.log2 : Int) - den.log2 - 1) ≤ num :=
    calc den * (2 : ℚ) ^ ((num.log2 : Int) - den.log2 - 1)
      _ ≤ 2 ^ ((den.log2 : Int) + 1) * 2 ^ ((num.log2 : Int) - den.log2 - 1) :=
        mul_le_mul_of_nonneg_right hdenHigh.le (zpow_nonneg two_pos.le _)
      _ = 2 ^ (num.log2 : Int) := by
        rw [← zpow_add₀ two_ne_zero]; congr 1; omega
      _ ≤ num := hnumLow
  unfold floorLog2
  dsimp only
  split
  · rename_i hreached
    exact ⟨scaled_le.mp hreached, hup⟩
  · rename_i hmissed
    refine ⟨hdown, ?_⟩
    rw [Int.sub_add_cancel]
    exact lt_of_not_ge fun h => hmissed (scaled_le.mpr h)

theorem nearest_bounds (num den : Nat) :
    num / den ≤ nearest num den ∧ nearest num den ≤ num / den + 1 := by
  unfold nearest
  dsimp only
  split
  · omega
  · omega
  · split <;> omega

theorem proper_zero (negative : Bool) : (zero negative).Proper :=
  ⟨by decide, le_refl _, by decide, .inl rfl⟩

/-- Every quotient is rounded to a value that a double can have. -/
theorem proper_ofRatio (negative : Bool) (num : Nat) {den : Nat} (hden : 0 < den) :
    (ofRatio negative num den).Proper := by
  unfold ofRatio
  split
  · exact proper_zero negative
  · rename_i hzero
    have hnum : 0 < num := Nat.pos_of_ne_zero fun h => hzero (beq_iff_eq.mpr h)
    obtain ⟨hlow, hhigh⟩ := floorLog2_spec hnum hden
    generalize floorLog2 num den = g at hlow hhigh
    generalize he : max leastExponent (g - 52) = e
    have hleast : leastExponent ≤ e := he ▸ le_max_left _ _
    have hdenScaled : 0 < den * 2 ^ e.toNat := Nat.mul_pos hden (Nat.two_pow_pos _)
    have hbits : num * 2 ^ (-e).toNat / (den * 2 ^ e.toNat) < 2 ^ 53 := by
      rw [Nat.div_lt_iff_lt_mul hdenScaled, ← mul_assoc, scaled_lt]
      calc (num : ℚ)
        _ < den * 2 ^ (g + 1) := hhigh
        _ ≤ den * 2 ^ (53 + e) :=
          mul_le_mul_of_nonneg_left (zpow_le_zpow_right₀ one_le_two (by omega)) (Nat.cast_nonneg _)
        _ = (2 ^ 53 * den : Nat) * 2 ^ e := by
          rw [zpow_add₀ two_ne_zero]; push_cast; ring
    have hnormal : e = leastExponent ∨
        2 ^ 52 ≤ num * 2 ^ (-e).toNat / (den * 2 ^ e.toNat) := by
      refine or_iff_not_imp_left.mpr fun hne => ?_
      rw [Nat.le_div_iff_mul_le hdenScaled, ← mul_assoc, scaled_le]
      calc ((2 ^ 52 * den : Nat) : ℚ) * 2 ^ e
        _ = den * 2 ^ (52 + e) := by
          rw [zpow_add₀ two_ne_zero]; push_cast; ring
        _ = den * 2 ^ g := by congr 2; omega
        _ ≤ num := hlow
    have hnearest := nearest_bounds (num * 2 ^ (-e).toNat) (den * 2 ^ e.toNat)
    simp only [Nat.pow_eq]
    generalize nearest (num * 2 ^ (-e).toNat) (den * 2 ^ e.toNat) = m at hnearest
    -- Rounding up to the next power of two brings a new significand and exponent.
    by_cases hcarry : m = 2 ^ 53
    · simp only [hcarry, beq_self_eq_true, if_true]
      split
      · trivial
      · exact ⟨by decide, by omega, by omega, .inr (le_refl _)⟩
    · simp only [beq_iff_eq, hcarry, if_false]
      split
      · trivial
      · exact ⟨by omega, hleast, by omega, hnormal.imp_right (le_trans · hnearest.1)⟩

/-- So is every decimal. -/
theorem proper_ofDecimal (negative : Bool) (digits : Nat) (scale : Int) :
    (ofDecimal negative digits scale).Proper := by
  unfold ofDecimal
  split
  · exact proper_zero negative
  · split
    · trivial
    · split
      · exact proper_zero negative
      · exact proper_ofRatio _ _ (Nat.pow_pos (by decide))

end Binary64

namespace Decimal

open Binary64

theorem readsBack_iff {m : Nat} {e : Int} {d : Decimal} :
    readsBack m e d = true ↔ Rounds m e d.value := by
  have hlow : (if (m == Nat.pow 2 52 && decide (leastExponent < e)) = true
      then 4 * m - 1 else 4 * m - 2) = lowEnd m e := by
    simp only [lowEnd, Bool.and_eq_true, beq_iff_eq, decide_eq_true_eq, Nat.pow_eq]
  have hrounds : Rounds m e d.value ↔
      (lowEnd m e * 2 ^ (e - 2) < d.value ∨ m % 2 = 0 ∧ lowEnd m e * 2 ^ (e - 2) = d.value) ∧
      (d.value < (4 * m + 2 : Nat) * 2 ^ (e - 2) ∨
        m % 2 = 0 ∧ d.value = (4 * m + 2 : Nat) * 2 ^ (e - 2)) :=
    ⟨fun h => ⟨h.low, h.high⟩, fun h => ⟨h.1, h.2⟩⟩
  rw [hrounds, readsBack, hlow]
  simp only [compareBinary_eq, Bool.and_eq_true, Bool.or_eq_true, beq_iff_eq, compare_gt_iff_gt,
    compare_lt_iff_lt, compare_eq_iff_eq]
  rw [← value, @eq_comm _ d.value (lowEnd m e * 2 ^ (e - 2))]

/-- A neighbour on the grid is taken only if it reads back. -/
theorem onGrid_rounds {m : Nat} {e s : Int} {d : Decimal} (h : onGrid m e s = some d) :
    Rounds m e d.value := by
  rw [← readsBack_iff]
  unfold onGrid at h
  dsimp only at h
  split at h
  case h_1 hdown hup =>
    split at h
    case h_3 => split at h <;> cases h <;> assumption
    all_goals cases h; assumption
  case h_2 hdown _ => cases h; exact hdown
  case h_3 _ hup => cases h; exact hup
  case h_4 => cases h

/-- The decimal that a double is written as rounds to it. -/
theorem shortest_rounds (m : Nat) (e : Int) : Rounds m e (shortest m e).value := by
  unfold shortest
  dsimp only
  rw [value_strip]
  generalize leadingScale m e 6 _ = k
  cases hfound : (List.range 17).findSome? fun (i : Nat) => onGrid m e (k - 1 - (i : Int)) with
  | none =>
    rw [Option.getD_none, value_exactly]
    exact rounds_self m e
  | some d =>
    obtain ⟨i, -, hgrid⟩ := List.exists_of_findSome?_eq_some hfound
    exact onGrid_rounds hgrid

end Decimal

end Storyboard

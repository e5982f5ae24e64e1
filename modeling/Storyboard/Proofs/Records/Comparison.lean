import Mathlib.Algebra.Order.Field.Power
import Mathlib.Algebra.Order.Field.Rat
import Mathlib.Data.String.Basic
import Mathlib.Data.Sum.Order
import Mathlib.Order.WithBot
import Storyboard.Records.Store

/-!
# How values compare

Whole numbers and doubles compare by their exact values, all other values by their texts. A
double that is no number has no value: it comes neither before nor behind another number. The
places of values among sorted records follow from this: numbers first, then texts, then what is
missing.
-/
namespace Storyboard

namespace Quantity

/-- The exact value, among the rational numbers and the two infinities. -/
def value? : Quantity → Option (WithBot (WithTop ℚ))
  | .undefined => none
  | .below => some ⊥
  | .above => some ⊤
  | .exact significand exponent => some ((significand * 2 ^ exponent : ℚ) : WithTop ℚ)

/-- No digit is lost in bringing two numbers to one exponent. -/
theorem scaled_mul (m : Int) {e k : Int} (h : k ≤ e) :
    ((m * Nat.pow 2 (e - k).toNat : Int) : ℚ) * 2 ^ k = m * 2 ^ e := by
  have hpow : (2 : ℚ) ^ e = 2 ^ (e - k).toNat * 2 ^ k := by
    rw [← zpow_natCast, ← zpow_add₀ two_ne_zero, Int.toNat_of_nonneg (Int.sub_nonneg.mpr h),
      Int.sub_add_cancel]
  rw [hpow, ← mul_assoc]
  simp

theorem compareScaled_eq (a i b j : Int) :
    compareScaled a i b j = compare (a * 2 ^ i : ℚ) (b * 2 ^ j) := by
  have hmono : StrictMono fun n : Int => (n : ℚ) * 2 ^ min i j := fun m n hlt =>
    mul_lt_mul_of_pos_right (Int.cast_lt.mpr hlt) (zpow_pos two_pos _)
  rw [compareScaled, ← cmp_eq_compare, ← cmp_eq_compare, ← hmono.cmp_map_eq,
    scaled_mul a (min_le_left i j), scaled_mul b (min_le_right i j)]

theorem compare_value (p q : ℚ) :
    compare ((p : WithTop ℚ) : WithBot (WithTop ℚ)) (q : WithTop ℚ) = compare p q := by
  rw [← cmp_eq_compare, ← cmp_eq_compare]
  exact (WithBot.coe_strictMono.comp WithTop.coe_strictMono).cmp_map_eq p q

/-- Two numbers that have values compare as these do. -/
theorem compare?_eq (a b : Quantity) :
    a.compare? b = a.value?.bind fun p => b.value?.map (compare p) := by
  cases a <;> cases b <;> simp only [compare?, value?, Option.bind_none, Option.bind_some,
    Option.map_none, Option.map_some, Option.some.injEq]
  case below.below => exact (compare_eq_iff_eq.mpr rfl).symm
  case below.above => exact (compare_lt_iff_lt.mpr bot_lt_top).symm
  case below.exact => exact (compare_lt_iff_lt.mpr (WithBot.bot_lt_coe _)).symm
  case above.below => exact (compare_gt_iff_gt.mpr bot_lt_top).symm
  case above.above => exact (compare_eq_iff_eq.mpr rfl).symm
  case above.exact m e =>
    exact (compare_gt_iff_gt.mpr (WithBot.coe_lt_coe.mpr (WithTop.coe_lt_top _))).symm
  case exact.below => exact (compare_gt_iff_gt.mpr (WithBot.bot_lt_coe _)).symm
  case exact.above m e =>
    exact (compare_lt_iff_lt.mpr (WithBot.coe_lt_coe.mpr (WithTop.coe_lt_top _))).symm
  case exact.exact => rw [compareScaled_eq, compare_value]

theorem less_iff {a b : Quantity} :
    a.less b = true ↔ ∃ p ∈ a.value?, ∃ q ∈ b.value?, p < q := by
  rw [less, compare?_eq, beq_iff_eq]
  cases a.value? with
  | none => simp
  | some p =>
    cases b.value? with
    | none => simp
    | some q => simp [compare_lt_iff_lt]

theorem value?_eq_none {a : Quantity} : a.value? = none ↔ a = .undefined := by
  cases a <;> simp [value?]

end Quantity

namespace Json

/-- `a` comes before `b`: two numbers by their values, all else by the texts. -/
def Before (a b : Json) : Prop :=
  match a.number?, b.number? with
  | some x, some y => ∃ p ∈ x.value?, ∃ q ∈ y.value?, p < q
  | _, _ => a.display < b.display

end Json

namespace Filter

variable {a b : Json}

theorem order_eq_lt : order a b = .lt ↔ a.Before b := by
  unfold order Json.Before
  cases a.number? with
  | none => exact compare_lt_iff_lt
  | some x =>
    cases b.number? with
    | none => exact compare_lt_iff_lt
    | some y =>
      simp only [← Quantity.less_iff, Quantity.less, beq_iff_eq]
      cases x.compare? y <;> simp

theorem order_eq_gt : order a b = .gt ↔ b.Before a := by
  unfold order Json.Before
  cases a.number? with
  | none => cases b.number? <;> exact compare_gt_iff_gt
  | some x =>
    cases b.number? with
    | none => exact compare_gt_iff_gt
    | some y =>
      simp only [Quantity.compare?_eq]
      cases x.value? with
      | none => simp
      | some p =>
        cases y.value? with
        | none => simp
        | some q => simp [compare_gt_iff_gt]

end Filter

/-- The places of records in an order: numbers by value, then texts, and behind all of these
the place of what is missing. -/
abbrev SortPlace := WithBot (WithTop ℚ) ⊕ₗ WithTop String

/-- The place of a value. One that is no number has none; it is filed under zero. -/
def Json.place : Json → SortPlace
  | .null => Sum.inrₗ ⊤
  | v =>
    match v.number? with
    | some x => Sum.inlₗ (x.value?.getD 0)
    | none => Sum.inrₗ v.display

namespace SortKey

/-- The place a key stands for. -/
def place : SortKey → SortPlace
  | .number x => Sum.inlₗ (x.value?.getD 0)
  | .text s => Sum.inrₗ s
  | .nothing => Sum.inrₗ ⊤

/-- Keys compare as their places do, save for the values that are no numbers. -/
theorem less_iff {a b : SortKey} (ha : a ≠ .number .undefined) (hb : b ≠ .number .undefined) :
    a.less b = true ↔ a.place < b.place := by
  cases a <;> cases b <;> simp only [less, place]
  case number.number x y =>
    have hx : ∃ p, x.value? = some p :=
      Option.ne_none_iff_exists'.mp fun h => ha (congrArg _ (Quantity.value?_eq_none.mp h))
    have hy : ∃ q, y.value? = some q :=
      Option.ne_none_iff_exists'.mp fun h => hb (congrArg _ (Quantity.value?_eq_none.mp h))
    obtain ⟨p, hp⟩ := hx
    obtain ⟨q, hq⟩ := hy
    rw [Quantity.less_iff, hp, hq]
    simp [Sum.inlₗ]
  all_goals simp only [Sum.inlₗ, Sum.inrₗ, Sum.Lex.inl_lt_inr, Sum.Lex.not_inr_lt_inl,
    Sum.Lex.inr_lt_inr_iff, WithTop.coe_lt_coe, WithTop.coe_lt_top, not_top_lt,
    decide_eq_true_eq, Bool.false_eq_true]

end SortKey

end Storyboard
